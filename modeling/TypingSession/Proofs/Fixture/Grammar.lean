import Mathlib.Data.List.Forall2
import TypingSession.Fixture.Parser
import TypingSession.Proofs.Text.Lines
import TypingSession.Proofs.Text.Trim

/-!
# TypingSession — the grammar of fixtures

What a fixture is can be said without reading one. A name is spelled by identifiers with
dots between them (`Spells`), a source is named by a dash or by a word, blanks and a name
(`Tag`), and a line describes a frame if such a tag stands in front of its first bar
(`Describes`). A line that describes no frame is at fault in one of three ways (`Faulty`).

The parser accepts just this language. It reads a line by cutting it at the first bar, the
tag at the first blank, and the name at the dots; so each of the lemmas below takes one of
these cuts back.

* `parseName_eq_some_iff`, `parseSource_eq_ok_iff`, `parseFrame_eq_ok_iff` — what is
  accepted, and as what.
* `parseSource_eq_error_iff`, `parseFrame_eq_error_iff` — what is refused, and why.
* `parse_grammar` — the same for texts, with the first line at fault to blame.
-/

namespace TypingSession

/-! ## Characters of names -/

/-- There are not many blanks, and none of them is a letter or a digit. -/
theorem Text.alphanumericRanges_blank : ∀ r ∈ Text.blankRanges, ∀ k < r.2 + 1 - r.1,
    Text.alphanumericRanges.covers (r.1 + k) = false := by
  decide +kernel

theorem isNameChar_of_isBlank {c : Char} (h : Text.isBlank c = true) : isNameChar c = false := by
  obtain ⟨r, hr, hlow, hhigh⟩ := Text.CodePoints.exists_of_covers h
  have halphanumeric := Text.alphanumericRanges_blank r hr (c.toNat - r.1) (by omega)
  rw [Nat.add_sub_cancel' hlow] at halphanumeric
  have hunderscore : c ≠ '_' := by
    rintro rfl
    exact absurd h (by decide)
  have hprime : c ≠ '\'' := by
    rintro rfl
    exact absurd h (by decide)
  simp [isNameChar, Text.isAlphanumeric, halphanumeric, hunderscore, hprime]

namespace Fixture

open Text (fields cut trim isBlank Tight)

/-! ## Names -/

/-- A text spells a name: an identifier, with capitalized identifiers in front of it for
the module, and a dot behind each of those. -/
inductive Spells : List Char → Qualified → Prop where
  | plain {last : List Char} (hlast : isIdentifier last = true) :
    Spells last ⟨none, String.ofList last⟩
  | qualified {path : List (List Char)} {last : List Char} (hne : path ≠ [])
    (hpath : ∀ s ∈ path, isIdentifier s = true ∧ isCapitalized s = true)
    (hlast : isIdentifier last = true) :
    Spells (['.'].intercalate (path ++ [last]))
      ⟨some ⟨path.map String.ofList⟩, String.ofList last⟩

theorem isNameChar_of_mem {l : List Char} (h : isIdentifier l = true) :
    ∀ c ∈ l, isNameChar c = true := by
  simp only [isIdentifier, Bool.and_eq_true, List.all_eq_true] at h
  exact h.2

theorem notMem_of_isIdentifier {l : List Char} (h : isIdentifier l = true) {c : Char}
    (hc : isNameChar c = false) : c ∉ l := by
  intro hmem
  rw [isNameChar_of_mem h c hmem] at hc
  cases hc

theorem parseName_of_fields {l last : List Char} {path : List (List Char)}
    (h : fields '.' l = path ++ [last]) :
    parseName l =
      if isIdentifier last && path.all (fun s => isIdentifier s && isCapitalized s) then
        some ⟨if path.isEmpty then none else some ⟨path.map String.ofList⟩, String.ofList last⟩
      else none := by
  simp [parseName, h]

theorem fields_of_segments {path : List (List Char)} {last : List Char}
    (hpath : ∀ s ∈ path, isIdentifier s = true) (hlast : isIdentifier last = true) :
    fields '.' (['.'].intercalate (path ++ [last])) = path ++ [last] := by
  have hdot : isNameChar '.' = false := by decide
  refine Text.fields_intercalate (by simp) fun s hs => ?_
  rcases List.mem_append.mp hs with hs | hs
  · exact notMem_of_isIdentifier (hpath s hs) hdot
  · rw [List.mem_singleton.mp hs]
    exact notMem_of_isIdentifier hlast hdot

theorem Spells.parseName_eq {l : List Char} {q : Qualified} (h : Spells l q) :
    parseName l = some q := by
  cases h with
  | plain hlast =>
    have hnone : ∀ s ∈ ([] : List (List Char)), isIdentifier s = true := by simp
    have hfields : fields '.' l = [] ++ [l] := by simpa using fields_of_segments hnone hlast
    simp [parseName_of_fields hfields, hlast]
  | qualified hne hpath hlast =>
    have hfields := fields_of_segments (fun s hs => (hpath s hs).1) hlast
    simpa [parseName_of_fields hfields, hlast, hne] using hpath

theorem parseName_eq_some_iff {l : List Char} {q : Qualified} :
    parseName l = some q ↔ Spells l q := by
  refine ⟨fun h => ?_, Spells.parseName_eq⟩
  -- splitting always gives a last segment, if need be an empty one
  rcases List.eq_nil_or_concat (fields '.' l) with hnil | ⟨path, last, hfields⟩
  · exact absurd hnil (Text.fields_ne_nil '.' l)
  rw [List.concat_eq_append] at hfields
  have hl : ['.'].intercalate (path ++ [last]) = l := by
    rw [← hfields, Text.intercalate_fields]
  rw [parseName_of_fields hfields, Option.ite_none_right_eq_some] at h
  obtain ⟨hgood, hq⟩ := h
  simp only [Bool.and_eq_true, List.all_eq_true] at hgood
  obtain ⟨hlast, hpath⟩ := hgood
  rw [← hl, ← Option.some.inj hq]
  by_cases hne : path = []
  · subst hne
    simpa using Spells.plain hlast
  · simpa [hne] using Spells.qualified hne hpath hlast

/-- What spells a name is made of the characters of names, and dots. -/
theorem Spells.of_mem {l : List Char} {q : Qualified} (h : Spells l q) {c : Char} (hc : c ∈ l) :
    isNameChar c = true ∨ c = '.' := by
  cases h with
  | plain hlast => exact Or.inl (isNameChar_of_mem hlast c hc)
  | @qualified path last _ hpath hlast =>
    rcases Text.mem_of_mem_intercalate hc with rfl | ⟨s, hs, hcs⟩
    · exact Or.inr rfl
    have hidentifier : isIdentifier s = true := by
      rcases List.mem_append.mp hs with hs | hs
      · exact (hpath s hs).1
      · exact List.mem_singleton.mp hs ▸ hlast
    exact Or.inl (isNameChar_of_mem hidentifier c hcs)

theorem Spells.tight {l : List Char} {q : Qualified} (h : Spells l q) : Tight l := by
  refine Text.tight_of_forall fun c hc => ?_
  cases hblank : isBlank c with
  | false => rfl
  | true =>
    rcases h.of_mem hc with hname | rfl
    · rw [isNameChar_of_isBlank hblank] at hname
      cases hname
    · exact absurd hblank (by decide)

/-- A text names a value or a type: a constructor by a capitalized name, and a variable by
another, which for types stands alone. -/
inductive NameOf : SourceKind → List Char → Source → Prop where
  | var {l : List Char} {q : Qualified} (h : Spells l q)
    (hlower : isCapitalized q.name.toList = false) : NameOf .value l (.value (.var q))
  | con {l : List Char} {q : Qualified} (h : Spells l q)
    (hupper : isCapitalized q.name.toList = true) : NameOf .value l (.value (.con q))
  | typeVar {l : List Char} {name : String} (h : Spells l ⟨none, name⟩)
    (hlower : isCapitalized name.toList = false) : NameOf .type l (.type (.var name))
  | typeCon {l : List Char} {q : Qualified} (h : Spells l q)
    (hupper : isCapitalized q.name.toList = true) : NameOf .type l (.type (.con q))

theorem NameOf.spells {kind : SourceKind} {l : List Char} {s : Source} (h : NameOf kind l s) :
    ∃ q, Spells l q := by
  cases h with
  | var h | con h | typeVar h | typeCon h => exact ⟨_, h⟩

/-- The source that a name of some kind names. -/
def parseNamed : SourceKind → List Char → Option Source
  | .value, l => (parseValue l).map .value
  | .type, l => (parseType l).map .type

theorem nameOf_of_parseValue {l : List Char} {v : Value} (h : parseValue l = some v) :
    NameOf .value l (.value v) := by
  obtain ⟨q, hq, rfl⟩ := Option.map_eq_some_iff.mp h
  have hspells := parseName_eq_some_iff.mp hq
  cases hupper : isCapitalized q.name.toList with
  | true => exact .con hspells hupper
  | false => exact .var hspells hupper

theorem nameOf_of_parseType {l : List Char} {t : Ty} (h : parseType l = some t) :
    NameOf .type l (.type t) := by
  unfold parseType at h
  split at h
  · cases h
  next q hq =>
    have hspells := parseName_eq_some_iff.mp hq
    obtain ⟨module, name⟩ := q
    cases hupper : isCapitalized name.toList with
    | true =>
      have ht : Ty.con ⟨module, name⟩ = t := by simpa [hupper] using h
      exact ht ▸ .typeCon hspells hupper
    | false =>
      -- a variable is not found in a module
      cases module with
      | some m => simp [hupper] at h
      | none =>
        have ht : Ty.var name = t := by simpa [hupper] using h
        exact ht ▸ .typeVar hspells hupper

theorem NameOf.parseNamed_eq {kind : SourceKind} {l : List Char} {s : Source}
    (h : NameOf kind l s) : parseNamed kind l = some s := by
  cases h with
  | var h hcase | con h hcase => simp [parseNamed, parseValue, h.parseName_eq, hcase]
  | typeVar h hcase | typeCon h hcase => simp [parseNamed, parseType, h.parseName_eq, hcase]

theorem parseNamed_eq_some_iff {kind : SourceKind} {l : List Char} {s : Source} :
    parseNamed kind l = some s ↔ NameOf kind l s := by
  refine ⟨fun h => ?_, NameOf.parseNamed_eq⟩
  cases kind with
  | value =>
    obtain ⟨v, hv, rfl⟩ := Option.map_eq_some_iff.mp h
    exact nameOf_of_parseValue hv
  | type =>
    obtain ⟨t, ht, rfl⟩ := Option.map_eq_some_iff.mp h
    exact nameOf_of_parseType ht

/-! ## Tags -/

/-- A tag names a source, or says that there is none. -/
inductive Tag : List Char → Option Source → Prop where
  | none : Tag ['-'] none
  | named {kind : SourceKind} {blanks name : List Char} {s : Source} (hne : blanks ≠ [])
    (hblank : ∀ c ∈ blanks, isBlank c = true) (h : NameOf kind name s) :
    Tag (kind.keyword.toList ++ (blanks ++ name)) (some s)

/-- What is wrong with a tag: it announces no name, or one that is misspelt. -/
inductive TagFault : List Char → LineError → Prop where
  | unknown {tag : List Char} (hdash : tag ≠ ['-'])
    (hword : ∀ (kind : SourceKind) (c : Char) (rest : List Char), isBlank c = true →
      tag ≠ kind.keyword.toList ++ c :: rest) :
    TagFault tag (.unknownSource (String.ofList tag))
  | misspelt {kind : SourceKind} {c : Char} {rest : List Char} (hblank : isBlank c = true)
    (hname : ∀ s, ¬ NameOf kind (trim rest) s) :
    TagFault (kind.keyword.toList ++ c :: rest) (.invalidName kind (String.ofList (trim rest)))

theorem keyword_not_blank (kind : SourceKind) :
    ∀ c ∈ kind.keyword.toList, isBlank c = false := by
  have hall : kind.keyword.toList.all (!isBlank ·) = true := by cases kind <;> decide
  simpa using hall

theorem parseSource_keyword (kind : SourceKind) {c : Char} (hc : isBlank c = true)
    (rest : List Char) :
    parseSource (kind.keyword.toList ++ c :: rest) =
      match parseNamed kind (trim rest) with
      | some s => .ok (some s)
      | none => .error (.invalidName kind (String.ofList (trim rest))) := by
  have hcut := Text.cut_append_cons (keyword_not_blank kind) hc rest
  unfold parseSource
  rw [hcut]
  cases kind with
  | value =>
    cases h : parseValue (trim rest) <;> simp [parseNamed, h, SourceKind.keyword]
  | type =>
    cases h : parseType (trim rest) <;> simp [parseNamed, h, SourceKind.keyword]

/-- Whatever is read as a tag is a dash, or begins with a keyword and a blank, or is of no
known form. -/
theorem tag_cases (tag : List Char) :
    tag = ['-'] ∨
    (∃ (kind : SourceKind) (c : Char) (rest : List Char), isBlank c = true ∧
      tag = kind.keyword.toList ++ c :: rest) ∨
    (TagFault tag (.unknownSource (String.ofList tag)) ∧
      parseSource tag = .error (.unknownSource (String.ofList tag))) := by
  by_cases hdash : tag = ['-']
  · exact Or.inl hdash
  by_cases hword : ∃ (kind : SourceKind) (c : Char) (rest : List Char), isBlank c = true ∧
      tag = kind.keyword.toList ++ c :: rest
  · exact Or.inr (Or.inl hword)
  refine Or.inr (Or.inr ⟨.unknown hdash fun kind c rest hc heq => ?_, ?_⟩)
  · exact hword ⟨kind, c, rest, hc, heq⟩
  unfold parseSource
  rw [if_neg hdash]
  -- the first word, if a blank ends it, is no keyword
  split
  · rfl
  next word rest hcut =>
    obtain ⟨-, c, hc, heq⟩ := Text.append_cons_of_cut hcut
    have hne (kind : SourceKind) : word ≠ kind.keyword.toList := by
      rintro rfl
      exact hword ⟨kind, c, rest, hc, heq⟩
    simp [hne .value, hne .type]

theorem Tag.parseSource_eq {tag : List Char} {s : Option Source} (h : Tag tag s) :
    parseSource tag = .ok s := by
  cases h with
  | none => rfl
  | @named kind blanks name source hne hblank h =>
    obtain ⟨c, bs, rfl⟩ := List.exists_cons_of_ne_nil hne
    obtain ⟨q, hq⟩ := h.spells
    have htrim : trim (bs ++ name) = name := by
      rw [Text.trim_blank_append fun d hd => hblank d (List.mem_cons_of_mem c hd)]
      exact hq.tight.trim_eq_self
    rw [List.cons_append, parseSource_keyword kind (hblank c List.mem_cons_self), htrim,
      h.parseNamed_eq]

theorem parseSource_eq_ok_iff {tag : List Char} (htight : Tight tag) {s : Option Source} :
    parseSource tag = .ok s ↔ Tag tag s := by
  refine ⟨fun h => ?_, Tag.parseSource_eq⟩
  rcases tag_cases tag with rfl | ⟨kind, c, rest, hc, rfl⟩ | ⟨-, herror⟩
  · cases h
    exact .none
  · rw [parseSource_keyword kind hc] at h
    split at h
    next s' hname =>
      cases h
      -- no blank follows the name, for the tag ends with it
      have hlast (d : Char) (hd : rest.getLast? = some d) : isBlank d = false := by
        refine htight.last d ?_
        rw [List.getLast?_append, List.getLast?_cons, hd]
        rfl
      obtain ⟨a, ha, hrest⟩ := Text.exists_eq_blank_append_trim hlast
      have hblank : ∀ d ∈ c :: a, isBlank d = true := List.forall_mem_cons.mpr ⟨hc, ha⟩
      have htag := Tag.named (List.cons_ne_nil c a) hblank (parseNamed_eq_some_iff.mp hname)
      rwa [List.cons_append, ← hrest] at htag
    · cases h
  · rw [herror] at h
    cases h

theorem parseSource_eq_error_iff {tag : List Char} {e : LineError} :
    parseSource tag = .error e ↔ TagFault tag e := by
  constructor
  · intro h
    rcases tag_cases tag with rfl | ⟨kind, c, rest, hc, rfl⟩ | ⟨hfault, herror⟩
    · cases h
    · rw [parseSource_keyword kind hc] at h
      split at h
      · cases h
      next hname =>
        cases h
        refine .misspelt hc fun s hs => ?_
        rw [hs.parseNamed_eq] at hname
        cases hname
    · rw [herror] at h
      cases h
      exact hfault
  · intro h
    cases h with
    | unknown hdash hword =>
      rcases tag_cases tag with heq | ⟨kind, c, rest, hc, heq⟩ | ⟨-, herror⟩
      · exact absurd heq hdash
      · exact absurd heq (hword kind c rest hc)
      · exact herror
    | @misspelt kind c rest hblank hname =>
      have hnone : parseNamed kind (trim rest) = none :=
        Option.eq_none_iff_forall_ne_some.mpr fun s hs => hname s (parseNamed_eq_some_iff.mp hs)
      rw [parseSource_keyword kind hblank, hnone]

/-! ## Lines -/

/-- A line describes a frame: a tag for the source stands in front of its first bar, and
the message behind it. -/
inductive Describes : List Char → Frame → Prop where
  | mk {before after : List Char} {s : Option Source} (hbar : '|' ∉ before)
    (htag : Tag (trim before) s) :
    Describes (before ++ '|' :: after) ⟨String.ofList (trim after), s⟩

/-- A line describes some frame. -/
def WellFormed (line : List Char) : Prop := ∃ f, Describes line f

/-- What is wrong with a line: it has no bar, or what stands in front of its first bar is
no tag. -/
inductive Faulty : List Char → LineError → Prop where
  | noBar {line : List Char} (hbar : '|' ∉ line) : Faulty line .missingSeparator
  | badTag {before after : List Char} {e : LineError} (hbar : '|' ∉ before)
    (h : TagFault (trim before) e) : Faulty (before ++ '|' :: after) e

/-- A line has no bar, or a first one. -/
theorem bar_cases (line : List Char) :
    '|' ∉ line ∨ ∃ before after, '|' ∉ before ∧ line = before ++ '|' :: after := by
  by_cases h : '|' ∈ line
  · obtain ⟨before, after, rfl, hbar⟩ := List.eq_append_cons_of_mem h
    exact Or.inr ⟨before, after, hbar, rfl⟩
  · exact Or.inl h

theorem parseFrame_noBar {line : List Char} (h : '|' ∉ line) :
    parseFrame line = .error .missingSeparator := by
  have hcut : cut (· == '|') line = none := Text.cut_eq_none_iff.mpr (Text.beq_of_notMem h)
  rw [parseFrame, hcut]

theorem parseFrame_bar {before : List Char} (h : '|' ∉ before) (after : List Char) :
    parseFrame (before ++ '|' :: after) =
      match parseSource (trim before) with
      | .error e => .error e
      | .ok s => .ok ⟨String.ofList (trim after), s⟩ := by
  have hcut := Text.cut_append_cons (Text.beq_of_notMem h) (beq_self_eq_true '|') after
  cases hsource : parseSource (trim before) <;> simp only [parseFrame, hcut, hsource]

theorem parseFrame_eq_ok_iff {line : List Char} {f : Frame} :
    parseFrame line = .ok f ↔ Describes line f := by
  constructor
  · intro h
    rcases bar_cases line with hbar | ⟨before, after, hbar, rfl⟩
    · rw [parseFrame_noBar hbar] at h
      cases h
    · rw [parseFrame_bar hbar] at h
      split at h
      · cases h
      next s hsource =>
        cases h
        exact .mk hbar ((parseSource_eq_ok_iff (Text.tight_trim before)).mp hsource)
  · rintro ⟨hbar, htag⟩
    rw [parseFrame_bar hbar, htag.parseSource_eq]

theorem parseFrame_eq_error_iff {line : List Char} {e : LineError} :
    parseFrame line = .error e ↔ Faulty line e := by
  constructor
  · intro h
    rcases bar_cases line with hbar | ⟨before, after, hbar, rfl⟩
    · rw [parseFrame_noBar hbar] at h
      cases h
      exact .noBar hbar
    · rw [parseFrame_bar hbar] at h
      split at h
      next e' hsource =>
        cases h
        exact .badTag hbar (parseSource_eq_error_iff.mp hsource)
      · cases h
  · intro h
    cases h with
    | noBar hbar => exact parseFrame_noBar hbar
    | badTag hbar hfault => rw [parseFrame_bar hbar, parseSource_eq_error_iff.mpr hfault]

/-! ## Texts -/

/-- The lines, trimmed, that are there for a frame. -/
def significant (ls : List (List Char)) : List (List Char) := (ls.map trim).filter isSignificant

/-- The first line at fault stands behind so many others. -/
inductive FirstFault : List (List Char) → Nat → LineError → Prop where
  | mk {before : List (List Char)} {raw : List Char} {after : List (List Char)} {e : LineError}
    (hbefore : ∀ line ∈ significant before, WellFormed line)
    (hsignificant : isSignificant (trim raw) = true) (h : Faulty (trim raw) e) :
    FirstFault (before ++ raw :: after) before.length e

section Lines

variable {raw : List Char} {rest : List (List Char)}

theorem significant_skip (h : isSignificant (trim raw) = false) :
    significant (raw :: rest) = significant rest := by
  simp [significant, h]

theorem significant_cons (h : isSignificant (trim raw) = true) :
    significant (raw :: rest) = trim raw :: significant rest := by
  simp [significant, h]

theorem parseLines_skip (h : isSignificant (trim raw) = false) (n : Nat) :
    parseLines n (raw :: rest) = parseLines (n + 1) rest := by
  simp [parseLines, h]

theorem parseLines_describes (h : isSignificant (trim raw) = true) {f : Frame}
    (hf : Describes (trim raw) f) (n : Nat) :
    parseLines n (raw :: rest) = (parseLines (n + 1) rest).map (f :: ·) := by
  simp [parseLines, h, parseFrame_eq_ok_iff.mpr hf]

theorem parseLines_faulty (h : isSignificant (trim raw) = true) {e : LineError}
    (he : Faulty (trim raw) e) (n : Nat) :
    parseLines n (raw :: rest) = .error (.line n e) := by
  simp [parseLines, h, parseFrame_eq_error_iff.mpr he]

end Lines

/-- A line is skipped, describes a frame, or is at fault. -/
theorem line_cases (line : List Char) :
    isSignificant line = false ∨
    (isSignificant line = true ∧ ∃ f, Describes line f) ∨
    (isSignificant line = true ∧ ∃ e, Faulty line e) := by
  cases hsignificant : isSignificant line with
  | false => exact Or.inl rfl
  | true =>
    cases h : parseFrame line with
    | ok f => exact Or.inr (Or.inl ⟨rfl, f, parseFrame_eq_ok_iff.mp h⟩)
    | error e => exact Or.inr (Or.inr ⟨rfl, e, parseFrame_eq_error_iff.mp h⟩)

theorem Describes.not_faulty {line : List Char} {f : Frame} {e : LineError}
    (h : Describes line f) : ¬ Faulty line e := by
  intro he
  have hok := parseFrame_eq_ok_iff.mpr h
  rw [parseFrame_eq_error_iff.mpr he] at hok
  cases hok

theorem Describes.unique {line : List Char} {f g : Frame} (hf : Describes line f)
    (hg : Describes line g) : f = g := by
  have h := parseFrame_eq_ok_iff.mpr hf
  rw [parseFrame_eq_ok_iff.mpr hg] at h
  exact (Except.ok.inj h).symm

theorem map_eq_ok_iff {α β ε : Type} {g : α → β} {x : Except ε α} {b : β} :
    x.map g = .ok b ↔ ∃ a, x = .ok a ∧ g a = b := by
  cases x <;> simp [Except.map]

theorem map_eq_error_iff {α β ε : Type} {g : α → β} {x : Except ε α} {e : ε} :
    x.map g = .error e ↔ x = .error e := by
  cases x <;> simp [Except.map]

/-- What is read are the frames that the significant lines describe. -/
theorem parseLines_eq_ok_iff {ls : List (List Char)} {n : Nat} {frames : List Frame} :
    parseLines n ls = .ok frames ↔ List.Forall₂ Describes (significant ls) frames := by
  induction ls generalizing n frames with
  | nil => simp [parseLines, significant, eq_comm]
  | cons raw rest ih =>
    rcases line_cases (trim raw) with hskip | ⟨hsignificant, f, hf⟩ | ⟨hsignificant, e, he⟩
    · rw [parseLines_skip hskip, significant_skip hskip, ih]
    · rw [parseLines_describes hsignificant hf, significant_cons hsignificant, map_eq_ok_iff,
        List.forall₂_cons_left_iff]
      constructor
      · rintro ⟨more, hmore, rfl⟩
        exact ⟨f, more, hf, ih.mp hmore, rfl⟩
      · rintro ⟨g, more, hg, hmore, rfl⟩
        exact ⟨more, ih.mpr hmore, by rw [hf.unique hg]⟩
    · rw [parseLines_faulty hsignificant he, significant_cons hsignificant,
        List.forall₂_cons_left_iff]
      constructor
      · intro h
        cases h
      · rintro ⟨f, -, hf, -⟩
        exact absurd he hf.not_faulty

theorem FirstFault.cons {raw : List Char} {rest : List (List Char)} {k : Nat} {e : LineError}
    (hraw : isSignificant (trim raw) = true → WellFormed (trim raw)) (h : FirstFault rest k e) :
    FirstFault (raw :: rest) (k + 1) e := by
  obtain @⟨before, raw', after, _, hbefore, hsignificant, he⟩ := h
  refine @FirstFault.mk (raw :: before) raw' after _ ?_ hsignificant he
  cases hs : isSignificant (trim raw) with
  | false => rwa [significant_skip hs]
  | true =>
    rw [significant_cons hs]
    exact List.forall_mem_cons.mpr ⟨hraw hs, hbefore⟩

theorem parseLines_append_ok {before : List (List Char)} {n : Nat} {frames : List Frame}
    (h : parseLines n before = .ok frames) (rest : List (List Char)) :
    parseLines n (before ++ rest) = (parseLines (n + before.length) rest).map (frames ++ ·) := by
  induction before generalizing n frames with
  | nil =>
    cases h
    cases hrest : parseLines n rest <;> simp [Except.map, hrest]
  | cons raw more ih =>
    have hlength : n + (raw :: more).length = n + 1 + more.length := by
      rw [List.length_cons]
      omega
    rw [List.cons_append, hlength]
    rcases line_cases (trim raw) with hskip | ⟨hsignificant, f, hf⟩ | ⟨hsignificant, e, he⟩
    · rw [parseLines_skip hskip] at h ⊢
      exact ih h
    · rw [parseLines_describes hsignificant hf] at h ⊢
      obtain ⟨frames, hmore, rfl⟩ := map_eq_ok_iff.mp h
      rw [ih hmore]
      cases parseLines (n + 1 + more.length) rest <;> rfl
    · rw [parseLines_faulty hsignificant he] at h
      cases h

theorem parseLines_append_error {before : List (List Char)} {n : Nat} {x : FixtureError}
    (h : parseLines n before = .error x) (rest : List (List Char)) :
    parseLines n (before ++ rest) = .error x := by
  induction before generalizing n with
  | nil => cases h
  | cons raw more ih =>
    rw [List.cons_append]
    rcases line_cases (trim raw) with hskip | ⟨hsignificant, f, hf⟩ | ⟨hsignificant, e, he⟩
    · rw [parseLines_skip hskip] at h ⊢
      exact ih h
    · rw [parseLines_describes hsignificant hf, map_eq_error_iff] at h ⊢
      exact ih h
    · rw [parseLines_faulty hsignificant he] at h ⊢
      exact h

theorem exists_frames_iff {ls : List (List Char)} :
    (∃ frames, List.Forall₂ Describes ls frames) ↔ ∀ line ∈ ls, WellFormed line := by
  induction ls with
  | nil => simp
  | cons line rest ih =>
    rw [List.forall_mem_cons, ← ih]
    constructor
    · rintro ⟨frames, h⟩
      obtain ⟨f, more, hf, hmore, -⟩ := List.forall₂_cons_left_iff.mp h
      exact ⟨⟨f, hf⟩, more, hmore⟩
    · rintro ⟨⟨f, hf⟩, more, hmore⟩
      exact ⟨f :: more, .cons hf hmore⟩

/-- What is refused is refused for the first line at fault. -/
theorem parseLines_eq_error_iff {ls : List (List Char)} {n : Nat} {x : FixtureError} :
    parseLines n ls = .error x ↔ ∃ k e, FirstFault ls k e ∧ x = .line (n + k) e := by
  constructor
  · intro h
    induction ls generalizing n with
    | nil => cases h
    | cons raw rest ih =>
      -- behind a line that is not to blame, the fault has one more line in front of it
      have hcons (hraw : isSignificant (trim raw) = true → WellFormed (trim raw))
          (hrest : parseLines (n + 1) rest = .error x) :
          ∃ k e, FirstFault (raw :: rest) k e ∧ x = .line (n + k) e := by
        obtain ⟨k, e, he, rfl⟩ := ih hrest
        exact ⟨k + 1, e, he.cons hraw, by rw [Nat.add_assoc, Nat.add_comm 1 k]⟩
      rcases line_cases (trim raw) with hskip | ⟨hsignificant, f, hf⟩ | ⟨hsignificant, e, he⟩
      · rw [parseLines_skip hskip] at h
        exact hcons (by simp [hskip]) h
      · rw [parseLines_describes hsignificant hf, map_eq_error_iff] at h
        exact hcons (fun _ => ⟨f, hf⟩) h
      · rw [parseLines_faulty hsignificant he] at h
        cases h
        have hnone : ∀ line ∈ significant [], WellFormed line := by simp [significant]
        exact ⟨0, e, .mk hnone hsignificant he, rfl⟩
  · rintro ⟨_, _, @⟨before, raw, after, e, hbefore, hsignificant, he⟩, rfl⟩
    -- all in front of the fault is read, so that the reading comes to it
    obtain ⟨frames, hframes⟩ := exists_frames_iff.mpr hbefore
    have hok : parseLines n before = .ok frames := parseLines_eq_ok_iff.mpr hframes
    rw [parseLines_append_ok hok, parseLines_faulty hsignificant he]
    rfl

theorem parse_eq_ok_iff {text : String} {stack : ErrorStack} :
    parse text = .ok stack ↔ parseLines 1 (Text.lines text.toList) = .ok stack.toList := by
  obtain ⟨outermost, inner⟩ := stack
  unfold parse
  rcases parseLines 1 (Text.lines text.toList) with x | frames
  · simp
  · cases frames <;> simp [ErrorStack.ofList?, ErrorStack.toList]

theorem parse_eq_error_iff {text : String} {x : FixtureError} :
    parse text = .error x ↔
      parseLines 1 (Text.lines text.toList) = .error x ∨
      (parseLines 1 (Text.lines text.toList) = .ok [] ∧ x = .empty) := by
  unfold parse
  rcases parseLines 1 (Text.lines text.toList) with y | frames
  · simp
  · cases frames <;> simp [ErrorStack.ofList?, eq_comm]

theorem parse_eq_line_iff {text : String} {n : Nat} {e : LineError} :
    parse text = .error (.line n e) ↔
      ∃ k, n = k + 1 ∧ FirstFault (Text.lines text.toList) k e := by
  rw [parse_eq_error_iff, parseLines_eq_error_iff]
  constructor
  · rintro (⟨k, e, h, heq⟩ | ⟨-, heq⟩)
    · cases heq
      exact ⟨k, Nat.add_comm 1 k, h⟩
    · cases heq
  · rintro ⟨k, rfl, h⟩
    exact Or.inl ⟨k, e, h, by rw [Nat.add_comm]⟩

theorem parse_eq_empty_iff {text : String} :
    parse text = .error .empty ↔ significant (Text.lines text.toList) = [] := by
  rw [parse_eq_error_iff, parseLines_eq_error_iff, parseLines_eq_ok_iff, List.forall₂_nil_right_iff]
  constructor
  · rintro (⟨k, e, -, heq⟩ | ⟨h, -⟩)
    · cases heq
    · exact h
  · intro h
    exact Or.inr ⟨h, rfl⟩

theorem FirstFault.lt_length {ls : List (List Char)} {k : Nat} {e : LineError}
    (h : FirstFault ls k e) : k < ls.length := by
  obtain ⟨-, -, -⟩ := h
  rw [List.length_append, List.length_cons]
  omega

/-- A text is refused without a line to blame when none of its lines counts, and otherwise for
the first line at fault, by a number that is not above that of its last line. -/
theorem line?_of_parse_eq_error {text : String} {x : FixtureError} (h : parse text = .error x) :
    (x.line? = none ↔ significant (Text.lines text.toList) = []) ∧
      ∀ n, x.line? = some n ↔ ∃ k e, n = k + 1 ∧ k < (Text.lines text.toList).length ∧
        FirstFault (Text.lines text.toList) k e := by
  rw [← parse_eq_empty_iff, h]
  rcases parse_eq_error_iff.mp h with hline | ⟨-, rfl⟩
  · obtain ⟨k, e, hfault, rfl⟩ := parseLines_eq_error_iff.mp hline
    refine ⟨by simp [FixtureError.line?], fun n => ?_⟩
    constructor
    · intro hn
      obtain rfl : 1 + k = n := Option.some.inj hn
      exact ⟨k, e, Nat.add_comm 1 k, hfault.lt_length, hfault⟩
    · rintro ⟨k', e', rfl, -, hfault'⟩
      have hsame := h.symm.trans (parse_eq_line_iff.mpr ⟨k', rfl, hfault'⟩)
      rw [Except.error.inj hsame]
      rfl
  · refine ⟨by simp [FixtureError.line?], fun n => ?_⟩
    refine iff_of_false (by simp [FixtureError.line?]) ?_
    rintro ⟨k, e, -, -, hfault⟩
    have hsame := h.symm.trans (parse_eq_line_iff.mpr ⟨k, rfl, hfault⟩)
    cases hsame

/-- What a fixture is, and what is read from it. A text consists of lines, of which those
that are neither blank nor comments count. It is accepted when there is one that counts and
all of them describe frames, and then these frames are the failure, in the order of the
lines. It is refused as empty when no line counts, and otherwise for the first line at
fault, by its number among all of the lines. -/
theorem parse_grammar (text : String) :
    ∃ ls, (∀ ls', Text.ConsistsOf text.toList ls' ↔ ls = ls') ∧
      (∀ stack, parse text = .ok stack ↔ List.Forall₂ Describes (significant ls) stack.toList) ∧
      ((∃ stack, parse text = .ok stack) ↔
        significant ls ≠ [] ∧ ∀ line ∈ significant ls, WellFormed line) ∧
      (parse text = .error .empty ↔ significant ls = []) ∧
      (∀ n e, parse text = .error (.line n e) ↔ ∃ k, n = k + 1 ∧ FirstFault ls k e) ∧
      (∀ x, parse text = .error x → x = .empty ∨ ∃ n e, x = .line n e) := by
  have hok (stack : ErrorStack) :
      parse text = .ok stack ↔
        List.Forall₂ Describes (significant (Text.lines text.toList)) stack.toList := by
    rw [parse_eq_ok_iff, parseLines_eq_ok_iff]
  refine ⟨Text.lines text.toList, fun _ => Text.consistsOf_iff, hok, ?_, parse_eq_empty_iff,
    fun _ _ => parse_eq_line_iff, ?_⟩
  · simp only [hok]
    constructor
    · rintro ⟨stack, h⟩
      refine ⟨?_, exists_frames_iff.mp ⟨stack.toList, h⟩⟩
      intro hnil
      rw [hnil] at h
      cases h
    · rintro ⟨hne, hall⟩
      obtain ⟨frames, h⟩ := exists_frames_iff.mpr hall
      cases frames with
      | nil => exact absurd (List.forall₂_nil_right_iff.mp h) hne
      | cons f more => exact ⟨⟨f, more⟩, h⟩
  · intro x h
    rcases parse_eq_error_iff.mp h with h | ⟨-, rfl⟩
    · obtain ⟨k, e, -, rfl⟩ := parseLines_eq_error_iff.mp h
      exact Or.inr ⟨_, _, rfl⟩
    · exact Or.inl rfl

/-- Only two lines of this text count. The others are a comment that would describe a frame,
a line of blanks, and a comment behind blanks. It is accepted with a frame for each of the two,
and with another line it is refused for that one, by its number among all of the lines. Of its
first two lines alone nothing counts. -/
theorem commentedText_grammar :
    let idle := "# value f | no\n \t\n"
    let text := idle ++ "- | top\r\n  value M.g | # in\n  # - | x\n"
    let counting := ["- | top".toList, "value M.g | # in".toList]
    let stack : ErrorStack :=
      ⟨⟨"top", none⟩, [⟨"# in", some (.value (.var ⟨some ⟨["M"]⟩, "g"⟩))⟩]⟩
    parse text = .ok stack ∧ List.Forall₂ Describes counting stack.toList ∧
      parse idle = .error .empty ∧
      parse (text ++ "value\n") = .error (.line 6 .missingSeparator) ∧
      ∃ ls, Text.ConsistsOf (text ++ "value\n").toList ls ∧
        significant ls = counting ++ ["value".toList] ∧ FirstFault ls 5 .missingSeparator := by
  intro idle text counting stack
  have hparsed : parse text = .ok stack := by decide +kernel
  have hcounting : significant (Text.lines text.toList) = counting := by decide +kernel
  have hnothing : significant (Text.lines idle.toList) = [] := by decide +kernel
  have hrefused : parse (text ++ "value\n") = .error (.line 6 .missingSeparator) := by
    decide +kernel
  refine ⟨hparsed, ?accepted, ?empty, hrefused, ?faulty⟩
  case accepted =>
    obtain ⟨ls, hls, hok, -⟩ := parse_grammar text
    obtain rfl := (hls _).mp (Text.consistsOf_lines text.toList)
    rw [← hcounting]
    exact (hok stack).mp hparsed
  case empty =>
    obtain ⟨ls, hls, -, -, hempty, -⟩ := parse_grammar idle
    obtain rfl := (hls _).mp (Text.consistsOf_lines idle.toList)
    exact hempty.mpr hnothing
  case faulty =>
    obtain ⟨ls, hls, -, -, -, hline, -⟩ := parse_grammar (text ++ "value\n")
    obtain ⟨k, hk, hfault⟩ := (hline 6 .missingSeparator).mp hrefused
    obtain rfl : 5 = k := Nat.succ.inj hk
    refine ⟨ls, (hls ls).mpr rfl, ?_, hfault⟩
    obtain rfl := (hls _).mp (Text.consistsOf_lines _)
    decide +kernel

end Fixture

end TypingSession
