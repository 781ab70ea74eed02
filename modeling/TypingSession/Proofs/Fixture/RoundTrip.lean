import TypingSession.Fixture.Writer
import TypingSession.Proofs.Fixture.Grammar

/-!
# TypingSession — failures written and read again

Not every failure can be written as a fixture: a message with a line feed would be two
lines, blanks around it would be lost, and of the expressions and the types only those that
are names have a place in a tag. What can be written is *representable*.

Writing and reading meet in the grammar. The line of a representable frame describes that
frame, and whatever line describes a frame describes a representable one. So the failures
that can be read from some text are those that can be read from their own.

* `Representable.describes`, `Describes.representable` — the two halves.
* `parse_of_consistsOf` — the lines of representable frames are read back, however they end.
* `parse_write` — the failures that are read back are the representable ones.
-/

namespace TypingSession

open Text (trim isBlank Tight)

/-! ## What can be written -/

/-- A name is spelled by identifiers, and the path of its module, if it has one, by
capitalized ones. -/
def Qualified.Representable (q : Qualified) : Prop :=
  isIdentifier q.name.toList = true ∧
    ∀ m ∈ q.module, m.segments ≠ [] ∧
      ∀ s ∈ m.segments, isIdentifier s.toList = true ∧ isCapitalized s.toList = true

instance : DecidablePred Qualified.Representable := fun _ => inferInstanceAs (Decidable (_ ∧ _))

/-- A source is a name that is capitalized as befits what it names. -/
def Source.Representable : Source → Prop
  | .value (.var q) => q.Representable ∧ isCapitalized q.name.toList = false
  | .value (.con q) => q.Representable ∧ isCapitalized q.name.toList = true
  | .type (.var name) => isIdentifier name.toList = true ∧ isCapitalized name.toList = false
  | .type (.con q) => q.Representable ∧ isCapitalized q.name.toList = true
  | _ => False

instance : DecidablePred Source.Representable
  | .value (.var _) | .value (.con _) | .type (.var _) | .type (.con _) =>
    inferInstanceAs (Decidable (_ ∧ _))
  | .value (.literal _) | .value (.app _ _) | .value (.abs _ _) | .value (.typed _ _)
  | .type (.unknown _) | .type (.app _ _) | .type (.function _ _) | .type (.forAll _ _) =>
    inferInstanceAs (Decidable False)

/-- A message that is trimmed and has no line feed, about a representable source or about
none. -/
structure Frame.Representable (f : Frame) : Prop where
  feed : '\n' ∉ f.message.toList
  trimmed : trim f.message.toList = f.message.toList
  source : ∀ s ∈ f.source, s.Representable

instance : DecidablePred Frame.Representable := fun f =>
  decidable_of_iff ('\n' ∉ f.message.toList ∧ trim f.message.toList = f.message.toList ∧
      ∀ s ∈ f.source, s.Representable)
    ⟨fun ⟨feed, trimmed, source⟩ => ⟨feed, trimmed, source⟩,
      fun h => ⟨h.feed, h.trimmed, h.source⟩⟩

namespace Fixture

/-! ## Names -/

theorem Spells.representable {l : List Char} {q : Qualified} (h : Spells l q) :
    q.Representable := by
  cases h with
  | plain hlast => exact ⟨by simpa using hlast, by simp⟩
  | qualified hne hpath hlast =>
    refine ⟨by simpa using hlast, ?_⟩
    rintro _ ⟨⟩
    refine ⟨by simpa using hne, fun s hs => ?_⟩
    obtain ⟨l, hl, rfl⟩ := List.mem_map.mp hs
    simpa using hpath l hl

theorem spells_text {q : Qualified} (h : q.Representable) : Spells q.text.toList q := by
  obtain ⟨module, name⟩ := q
  obtain ⟨hname, hmodule⟩ := h
  cases module with
  | none => simpa [Qualified.text] using Spells.plain hname
  | some m =>
    obtain ⟨hne, hsegments⟩ := hmodule m rfl
    have hpath : ∀ l ∈ m.segments.map String.toList,
        isIdentifier l = true ∧ isCapitalized l = true := by
      intro l hl
      obtain ⟨s, hs, rfl⟩ := List.mem_map.mp hl
      exact hsegments s hs
    have hspells := Spells.qualified (by simpa using hne) hpath hname
    have hsame : (m.segments.map String.toList).map String.ofList = m.segments := by
      simp [Function.comp_def]
    have htext : (Qualified.text ⟨some m, name⟩).toList =
        ['.'].intercalate (m.segments.map String.toList ++ [name.toList]) := by
      rw [Text.intercalate_concat (by simpa using hne)]
      simp [Qualified.text, ModuleName.text]
    rw [htext]
    simpa [hsame] using hspells

/-- The kind of name that a source has. -/
def kindOf : Source → SourceKind
  | .value _ => .value
  | .type _ => .type

/-- The written form of a source. -/
def textOf : Source → String
  | .value v => v.text
  | .type t => t.text

theorem tag_some (s : Source) : tag (some s) = (kindOf s).keyword ++ " " ++ textOf s := by
  cases s <;> rfl

theorem NameOf.representable {kind : SourceKind} {l : List Char} {s : Source}
    (h : NameOf kind l s) : s.Representable := by
  cases h with
  | var h hcase | con h hcase | typeCon h hcase => exact ⟨h.representable, hcase⟩
  | typeVar h hlower => exact ⟨h.representable.1, hlower⟩

theorem nameOf_textOf {s : Source} (h : s.Representable) :
    NameOf (kindOf s) (textOf s).toList s := by
  match s, h with
  | .value (.var _), ⟨hq, hlower⟩ => exact .var (spells_text hq) hlower
  | .value (.con _), ⟨hq, hupper⟩ => exact .con (spells_text hq) hupper
  | .type (.con _), ⟨hq, hupper⟩ => exact .typeCon (spells_text hq) hupper
  | .type (.var name), ⟨hname, hlower⟩ =>
    have hq : Qualified.Representable ⟨none, name⟩ := ⟨hname, by simp⟩
    exact .typeVar (spells_text hq) hlower

/-! ## Tags -/

theorem tag_describes {source : Option Source} (h : ∀ s ∈ source, s.Representable) :
    Tag (tag source).toList source := by
  cases source with
  | none => exact .none
  | some s =>
    have hblank : ∀ c ∈ [' '], isBlank c = true := List.forall_mem_singleton.mpr (by decide)
    have htag := Tag.named (List.cons_ne_nil ' ' []) hblank (nameOf_textOf (h s rfl))
    rw [tag_some]
    simpa using htag

theorem Tag.representable {l : List Char} {source : Option Source} (h : Tag l source) :
    ∀ s ∈ source, s.Representable := by
  rintro s ⟨⟩
  cases h with
  | named _ _ hname => exact hname.representable

theorem head_keyword (kind : SourceKind) :
    ∃ c rest, kind.keyword.toList = c :: rest ∧ isBlank c = false ∧ c ≠ '#' := by
  cases kind <;> exact ⟨_, _, rfl, by decide, by decide⟩

/-- Every tag begins with a character that is neither blank nor announces a comment. -/
theorem head_tag (source : Option Source) :
    ∃ c rest, (tag source).toList = c :: rest ∧ isBlank c = false ∧ c ≠ '#' := by
  cases source with
  | none => exact ⟨'-', [], rfl, by decide, by decide⟩
  | some s =>
    obtain ⟨c, rest, hkeyword, hc⟩ := head_keyword (kindOf s)
    exact ⟨c, rest ++ (' ' :: (textOf s).toList), by simp [tag_some, hkeyword], hc⟩

theorem isNameChar_of_mem_keyword {kind : SourceKind} :
    ∀ c ∈ kind.keyword.toList, isNameChar c = true := by
  have hall : kind.keyword.toList.all isNameChar = true := by cases kind <;> decide
  exact List.all_eq_true.mp hall

/-- A tag is written with the characters of names, dots, spaces and dashes. -/
theorem notMem_tag {source : Option Source} (h : ∀ s ∈ source, s.Representable) {c : Char}
    (hname : isNameChar c = false) (hc : c ∉ ['.', ' ', '-']) : c ∉ (tag source).toList := by
  obtain ⟨hdot, hspace, hdash⟩ : c ≠ '.' ∧ c ≠ ' ' ∧ c ≠ '-' := by simpa using hc
  intro hmem
  cases source with
  | none => exact hdash (List.mem_singleton.mp hmem)
  | some s =>
    obtain ⟨q, hspells⟩ := (nameOf_textOf (h s rfl)).spells
    rw [tag_some, String.toList_append, String.toList_append, List.mem_append,
      List.mem_append] at hmem
    rcases hmem with (hkeyword | hblank) | htext
    · rw [isNameChar_of_mem_keyword c hkeyword] at hname
      cases hname
    · exact hspace (List.mem_singleton.mp hblank)
    · rcases hspells.of_mem htext with hmem | heq
      · rw [hmem] at hname
        cases hname
      · exact hdot heq

theorem Spells.ne_nil {l : List Char} {q : Qualified} (h : Spells l q) : l ≠ [] := by
  cases h with
  | plain hlast =>
    rintro rfl
    cases hlast
  | qualified hne hpath hlast =>
    rw [Text.intercalate_concat hne]
    exact List.append_ne_nil_of_right_ne_nil _ (List.cons_ne_nil _ _)

theorem Tag.tight {l : List Char} {source : Option Source} (h : Tag l source) : Tight l := by
  cases h with
  | none => exact Text.tight_of_forall (List.forall_mem_singleton.mpr (by decide))
  | @named kind blanks name s _ _ hname =>
    obtain ⟨q, hspells⟩ := hname.spells
    have hkeyword : Tight kind.keyword.toList := Text.tight_of_forall (keyword_not_blank kind)
    have hne : kind.keyword.toList ≠ [] := by cases kind <;> decide
    exact hkeyword.append hne blanks hspells.tight hspells.ne_nil

/-! ## Lines -/

theorem toList_line (f : Frame) :
    (line f).toList = ((tag f.source).toList ++ [' ']) ++ '|' :: (' ' :: f.message.toList) := by
  simp [line]

theorem isSignificant_line (f : Frame) : isSignificant (trim (line f).toList) = true := by
  obtain ⟨c, rest, htag, hblank, hcomment⟩ := head_tag f.source
  have hline : (line f).toList = [] ++ c :: (rest ++ [' '] ++ '|' :: (' ' :: f.message.toList)) := by
    rw [toList_line, htag]
    simp
  rw [hline, Text.trim_append_cons hblank]
  simpa [isSignificant, Text.trimStart] using hcomment

/-- The line of a representable frame describes it, trimmed as it is for reading. -/
theorem describes_line {f : Frame} (h : f.Representable) :
    Describes (trim (line f).toList) f := by
  obtain ⟨message, source⟩ := f
  have htag : Tag (tag source).toList source := tag_describes h.source
  have hblank : ∀ c ∈ [' '], isBlank c = true := List.forall_mem_singleton.mpr (by decide)
  have hbar : '|' ∉ Text.trimStart ((tag source).toList ++ [' ']) := by
    intro hmem
    have hline : '|' ∈ (tag source).toList ++ [' '] := (List.dropWhile_sublist isBlank).mem hmem
    rcases List.mem_append.mp hline with hmem | hmem
    · exact notMem_tag h.source (by decide) (by decide) hmem
    · exact absurd hmem (by decide)
  -- what trimming the line takes, trimming its parts would take as well
  have hbefore : trim (Text.trimStart ((tag source).toList ++ [' '])) = (tag source).toList := by
    rw [Text.trim_trimStart, htag.tight.trim_append_blank hblank]
  have hafter : trim (Text.trimEnd (' ' :: message.toList)) = message.toList := by
    rw [Text.trim_trimEnd, ← List.singleton_append, Text.trim_blank_append hblank, h.trimmed]
  have hdescribes : Describes _ ⟨String.ofList (trim (Text.trimEnd (' ' :: message.toList))), source⟩ :=
    .mk hbar (hbefore.symm ▸ htag)
  rw [hafter, String.ofList_toList] at hdescribes
  rw [toList_line, Text.trim_append_cons (by decide)]
  exact hdescribes

/-- A frame that a line describes is representable. -/
theorem Describes.representable {l : List Char} {f : Frame} (h : Describes l f)
    (hfeed : '\n' ∉ l) : f.Representable := by
  obtain @⟨before, after, source, -, htag⟩ := h
  refine ⟨?_, ?_, htag.representable⟩
  · intro hmem
    rw [String.toList_ofList] at hmem
    have hafter : '\n' ∈ after := Text.mem_of_mem_trim hmem
    exact hfeed (List.mem_append_right before (List.mem_cons_of_mem _ hafter))
  · rw [String.toList_ofList, Text.trim_trim]

theorem feed_notMem_line {f : Frame} (h : f.Representable) : '\n' ∉ (line f).toList := by
  have htag : '\n' ∉ (tag f.source).toList := notMem_tag h.source (by decide) (by decide)
  simp [toList_line, htag, h.feed]

/-- No carriage return at the end of a line is taken for a part of its ending. -/
theorem getLast?_line {f : Frame} (h : f.Representable) :
    (line f).toList.getLast? ≠ some '\r' := by
  rw [toList_line, List.getLast?_append_of_ne_nil _ (List.cons_ne_nil _ _), List.getLast?_cons_cons]
  rw [List.getLast?_cons]
  cases hlast : f.message.toList.getLast? with
  | none => simp
  | some c =>
    have hblank := (Text.trim_eq_self_iff.mp h.trimmed).last c hlast
    rintro ⟨⟩
    exact absurd hblank (by decide)

/-! ## Failures -/

/-- The lines of representable frames are read back, whatever their endings are. -/
theorem parse_of_consistsOf {stack : ErrorStack} (h : ∀ f ∈ stack.toList, f.Representable)
    {text : String}
    (htext : Text.ConsistsOf text.toList (stack.toList.map fun f => (line f).toList)) :
    parse text = .ok stack := by
  have hsignificant (frames : List Frame) :
      significant (frames.map fun f => (line f).toList) =
        frames.map fun f => trim (line f).toList := by
    simp [significant, List.filter_map, Function.comp_def, isSignificant_line]
  rw [parse_eq_ok_iff, parseLines_eq_ok_iff, htext.lines_eq, hsignificant,
    List.forall₂_map_left_iff, List.forall₂_same]
  exact fun f hf => describes_line (h f hf)

theorem consistsOf_write {frames : List Frame} (h : ∀ f ∈ frames, f.Representable) :
    Text.ConsistsOf (write frames).toList (frames.map fun f => (line f).toList) := by
  have hwrite : (write frames).toList =
      (frames.map fun f => (line f).toList).flatMap (· ++ ['\n']) := by
    simp [write, List.flatMap_map]
  rw [Text.consistsOf_iff, hwrite]
  refine Text.lines_flatMap_feed fun l hl => ?_
  obtain ⟨f, hf, rfl⟩ := List.mem_map.mp hl
  exact ⟨feed_notMem_line (h f hf), getLast?_line (h f hf)⟩

theorem parse_write {stack : ErrorStack} (h : ∀ f ∈ stack.toList, f.Representable) :
    parse (write stack.toList) = .ok stack :=
  parse_of_consistsOf h (consistsOf_write h)

theorem representable_of_forall₂ {ls : List (List Char)} {frames : List Frame}
    (h : List.Forall₂ Describes ls frames) (hfeed : ∀ l ∈ ls, '\n' ∉ l) :
    ∀ f ∈ frames, f.Representable := by
  induction h with
  | nil => exact fun f hf => absurd hf List.not_mem_nil
  | cons hf _ ih =>
    obtain ⟨hline, hrest⟩ := List.forall_mem_cons.mp hfeed
    exact List.forall_mem_cons.mpr ⟨hf.representable hline, ih hrest⟩

/-- Whatever is read is representable. -/
theorem representable_of_parse {text : String} {stack : ErrorStack} (h : parse text = .ok stack) :
    ∀ f ∈ stack.toList, f.Representable := by
  rw [parse_eq_ok_iff, parseLines_eq_ok_iff] at h
  refine representable_of_forall₂ h fun l hl hmem => ?_
  obtain ⟨raw, hraw, rfl⟩ := List.mem_map.mp (List.mem_of_mem_filter hl)
  exact Text.feed_notMem_of_mem_lines hraw (Text.mem_of_mem_trim hmem)

/-- A failure is read back from the text that is written for it just if its frames are
representable, and every failure that is read from some text is one of those. -/
theorem parse_write_roundTrip (stack : ErrorStack) :
    (parse (write stack.toList) = .ok stack ↔ ∀ f ∈ stack.toList, f.Representable) ∧
      ∀ text, parse text = .ok stack →
        (∀ f ∈ stack.toList, f.Representable) ∧ parse (write stack.toList) = .ok stack := by
  refine ⟨⟨representable_of_parse, parse_write⟩, fun text h => ?_⟩
  have hrepresentable := representable_of_parse h
  exact ⟨hrepresentable, parse_write hrepresentable⟩

/-- A failure with bars, signs of comments and a carriage return in its messages, one of
which is empty, about names in a nested module. -/
def oddMessages : ErrorStack where
  outermost := ⟨"a | b\rc", some (.value (.var ⟨some ⟨["Data", "Map"]⟩, "x'"⟩))⟩
  inner := [⟨"", none⟩, ⟨"# d", some (.type (.var "t"))⟩]

theorem oddMessages_roundTrip :
    (∀ f ∈ oddMessages.toList, f.Representable) ∧
      parse (write oddMessages.toList) = .ok oddMessages := by
  have hrepresentable : ∀ f ∈ oddMessages.toList, f.Representable := by decide +kernel
  exact ⟨hrepresentable, (parse_write_roundTrip oddMessages).1.mpr hrepresentable⟩

end Fixture

end TypingSession
