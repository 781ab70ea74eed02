import TypingSession.Proofs.Fixture.RoundTrip
import TypingSession.Proofs.WrittenForm.ModuleName

/-!
# TypingSession — accepted names

The name in a tag is cut at its dots, and what is accepted is kept letter for letter: the
written form of the source is the text that named it, with one segment for each of its
fields. So different names name different sources.

Cutting a name at its last dot first, and reading what stands in front of it as the dotted
form of a module, comes to the same. The dotted form leaves out empty segments, but a name
that has one is refused.

* `parseName_eq_atLastDot` — the two ways of reading a name.
* `Source.Representable.eq_of_textOf_eq` — sources of one kind are told by their written form.
* `accepted_names_kept` — the names are kept.
-/

namespace TypingSession

open Text (fields cut)

/-- The segments of a name, those of its module first. -/
def Qualified.segments (q : Qualified) : List String :=
  (match q.module with
    | some m => m.segments
    | none => []) ++ [q.name]

/-- The name that a source is, if it is one. -/
def Source.name? : Source → Option Qualified
  | .value (.var q) | .value (.con q) | .type (.con q) => some q
  | .type (.var name) => some ⟨none, name⟩
  | _ => none

namespace Fixture

/-! ## Reading at the last dot -/

/-- A name as it is read at its last dot: behind it an identifier, and in front of it the
dotted form of a module, of which every segment is a capitalized identifier. -/
def parseAtLastDot (l : List Char) : Option Qualified :=
  match cut (· == '.') l.reverse with
  | none => if isIdentifier l then some ⟨none, String.ofList l⟩ else none
  | some (last, front) =>
    if (fields '.' front.reverse).all (fun s => isIdentifier s && isCapitalized s) &&
        isIdentifier last.reverse then
      some ⟨some (.ofDotted (String.ofList front.reverse)), String.ofList last.reverse⟩
    else none

/-- A text has no dot, or a last one. -/
theorem dot_cases (l : List Char) :
    '.' ∉ l ∨ ∃ front last, '.' ∉ last ∧ l = front ++ '.' :: last := by
  by_cases h : '.' ∈ l
  · obtain ⟨last, front, hl, hdot⟩ := List.eq_append_cons_of_mem (List.mem_reverse.mpr h)
    refine Or.inr ⟨front.reverse, last.reverse, by simpa using hdot, ?_⟩
    rw [← List.reverse_reverse l, hl]
    simp
  · exact Or.inl h

theorem parseAtLastDot_noDot {l : List Char} (h : '.' ∉ l) :
    parseAtLastDot l = if isIdentifier l then some ⟨none, String.ofList l⟩ else none := by
  have hreverse : '.' ∉ l.reverse := by simpa using h
  rw [parseAtLastDot, Text.cut_eq_none_iff.mpr (Text.beq_of_notMem hreverse)]

theorem parseAtLastDot_dot {last : List Char} (h : '.' ∉ last) (front : List Char) :
    parseAtLastDot (front ++ '.' :: last) =
      if (fields '.' front).all (fun s => isIdentifier s && isCapitalized s) &&
          isIdentifier last then
        some ⟨some (.ofDotted (String.ofList front)), String.ofList last⟩
      else none := by
  have hreverse : '.' ∉ last.reverse := by simpa using h
  have hl : (front ++ '.' :: last).reverse = last.reverse ++ '.' :: front.reverse := by simp
  have hcut := Text.cut_append_cons (Text.beq_of_notMem hreverse) (beq_self_eq_true '.')
    front.reverse
  simp only [parseAtLastDot, hl, hcut, List.reverse_reverse]

/-- Reading a name at its last dot, and its module by the dotted form, is reading it at all
of its dots. -/
theorem parseName_eq_atLastDot (l : List Char) : parseName l = parseAtLastDot l := by
  rcases dot_cases l with hdot | ⟨front, last, hdot, rfl⟩
  · have hfields : fields '.' l = [] ++ [l] := Text.fields_of_notMem hdot
    rw [parseName_of_fields hfields, parseAtLastDot_noDot hdot]
    simp
  · rw [parseName_of_fields (Text.fields_append_cons hdot front), parseAtLastDot_dot hdot,
      Bool.and_comm]
    have hne : fields '.' front ≠ [] := Text.fields_ne_nil '.' front
    cases hpath : (fields '.' front).all (fun s => isIdentifier s && isCapitalized s) with
    | false => rfl
    | true =>
      -- identifiers are not empty, so the dotted form leaves none of them out
      have hempty : [] ∉ fields '.' (String.ofList front).toList := by
        rw [String.toList_ofList]
        intro hmem
        exact absurd (List.all_eq_true.mp hpath [] hmem) (by decide)
      have hmodule := ModuleName.ofDotted_of_fields hempty
      rw [String.toList_ofList] at hmodule
      simp [hmodule, hne]

/-! ## Written forms -/

theorem Spells.toList_text {l : List Char} {q : Qualified} (h : Spells l q) :
    q.text.toList = l := by
  cases h with
  | plain hlast => simp [Qualified.text]
  | qualified hne hpath hlast =>
    rw [Text.intercalate_concat hne]
    simp [Qualified.text, ModuleName.text, Function.comp_def]

theorem Spells.segments_eq {l : List Char} {q : Qualified} (h : Spells l q) :
    q.segments.map String.toList = fields '.' l := by
  cases h with
  | plain hlast =>
    have hdot : '.' ∉ l := notMem_of_isIdentifier hlast (by decide)
    simp [Qualified.segments, Text.fields_of_notMem hdot]
  | qualified hne hpath hlast =>
    rw [fields_of_segments (fun s hs => (hpath s hs).1) hlast]
    simp [Qualified.segments, Function.comp_def]

theorem NameOf.toList_textOf {kind : SourceKind} {l : List Char} {s : Source}
    (h : NameOf kind l s) : (textOf s).toList = l := by
  cases h with
  | var h | con h | typeVar h | typeCon h => exact h.toList_text

theorem NameOf.spells_name {kind : SourceKind} {l : List Char} {s : Source}
    (h : NameOf kind l s) : ∃ q, s.name? = some q ∧ Spells l q := by
  cases h with
  | var h | con h | typeVar h | typeCon h => exact ⟨_, rfl, h⟩

/-! ## Telling sources apart -/

/-- Names of one kind that are written alike are the same source. -/
theorem eq_of_textOf_eq {s t : Source} (hs : s.Representable) (ht : t.Representable)
    (hkind : kindOf s = kindOf t) (h : textOf s = textOf t) : s = t := by
  have hnamed := (nameOf_textOf hs).parseNamed_eq
  rw [hkind, h, (nameOf_textOf ht).parseNamed_eq] at hnamed
  exact (Option.some.inj hnamed).symm

/-- Names are equal just if they are the same: they hold no numbers. -/
theorem eq_of_equal {s t : Source} (hs : s.Representable) (h : s.equal t = true) : s = t := by
  match s, t, hs with
  | .value (.var a), .value (.var b), _ | .value (.con a), .value (.con b), _ =>
    have hab : a = b := by simpa [Source.equal, Value.equal] using h
    rw [hab]
  | .type t, .type u, _ =>
    have htu : t = u := by simpa [Source.equal] using h
    rw [htu]

/-- **Accepted names are kept letter for letter.** The written form of an accepted name is
the text of the name, and its segments are the fields of that text between the dots; none
gets lost where the module in front of the last dot is built from its dotted form. So names
of one kind that differ never name equal sources. -/
theorem accepted_names_kept :
    (∀ l v, parseValue l = some v → v.text.toList = l) ∧
      (∀ l t, parseType l = some t → t.text.toList = l) ∧
      (∀ kind l s, parseNamed kind l = some s →
        ∃ q, s.name? = some q ∧ q.segments.map String.toList = fields '.' l ∧
          parseAtLastDot l = some q) ∧
      (∀ kind l l' s s', parseNamed kind l = some s → parseNamed kind l' = some s' →
        s.equal s' = true → l = l') := by
  refine ⟨?_, ?_, ?_, ?_⟩
  · intro l v h
    exact (nameOf_of_parseValue h).toList_textOf
  · intro l t h
    exact (nameOf_of_parseType h).toList_textOf
  · intro kind l s h
    obtain ⟨q, hq, hspells⟩ := (parseNamed_eq_some_iff.mp h).spells_name
    have hread : parseAtLastDot l = some q := by
      rw [← parseName_eq_atLastDot, hspells.parseName_eq]
    exact ⟨q, hq, hspells.segments_eq, hread⟩
  · intro kind l l' s s' h h' hequal
    have hname : NameOf kind l s := parseNamed_eq_some_iff.mp h
    have hname' : NameOf kind l' s' := parseNamed_eq_some_iff.mp h'
    obtain rfl := eq_of_equal hname.representable hequal
    rw [← hname.toList_textOf, hname'.toList_textOf]

/-- A constructor and a type of the same name, deep inside a nested module. -/
theorem deepNames_kept :
    let l := "Data.Map.Strict.Internal.Bin'".toList
    ∃ v t, parseValue l = some v ∧ parseType l = some t ∧
      v.text = "Data.Map.Strict.Internal.Bin'" ∧ t.text = "Data.Map.Strict.Internal.Bin'" := by
  intro l
  let q : Qualified := ⟨some ⟨["Data", "Map", "Strict", "Internal"]⟩, "Bin'"⟩
  have hvalue : parseValue l = some (.con q) := by decide +kernel
  have htype : parseType l = some (.con q) := by decide +kernel
  obtain ⟨hvalues, htypes, -, -⟩ := accepted_names_kept
  exact ⟨.con q, .con q, hvalue, htype, String.toList_inj.mp (hvalues l _ hvalue),
    String.toList_inj.mp (htypes l _ htype)⟩

end Fixture

end TypingSession
