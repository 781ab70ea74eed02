/-!
# TypingSession — splitting a text

Three ways of taking a text apart: `cut` at the first character of a class,
`fields` at every occurrence of a separator, and `lines` at the line endings.

* `cut_eq_none_iff` — nothing to cut at.
* `append_cons_of_cut`, `cut_append_cons` — the two parts and the character between them
  make up the text, and the only place to cut is the first character of the class.
* `intercalate_fields`, `fields_intercalate` — joining the fields again gives the text
  back, and joined pieces without the separator are the fields.
* `splitOn_flatMap` — pieces that are each ended by a separator are found again, with
  nothing behind the last.
-/

namespace TypingSession.Text

/-! ## Cutting once -/

/-- The parts before and after the first character that satisfies `p`, if any
does. -/
def cut (p : Char → Bool) : List Char → Option (List Char × List Char)
  | [] => none
  | c :: rest =>
    if p c then some ([], rest)
    else (cut p rest).map fun (before, after) => (c :: before, after)

theorem cut_eq_none_iff {p : Char → Bool} {l : List Char} :
    cut p l = none ↔ ∀ c ∈ l, p c = false := by
  induction l with
  | nil => simp [cut]
  | cons c rest ih => cases h : p c <;> simp [cut, h, ih]

/-- The parts of a cut surround the first character of the class. -/
theorem append_cons_of_cut {p : Char → Bool} {l before after : List Char}
    (h : cut p l = some (before, after)) :
    (∀ c ∈ before, p c = false) ∧ ∃ c, p c = true ∧ l = before ++ c :: after := by
  induction l generalizing before with
  | nil => simp [cut] at h
  | cons c rest ih =>
    cases hc : p c with
    | true =>
      simp only [cut, hc, if_true, Option.some.injEq, Prod.mk.injEq] at h
      obtain ⟨rfl, rfl⟩ := h
      exact ⟨by simp, c, hc, rfl⟩
    | false =>
      simp only [cut, hc, Bool.false_eq_true, if_false, Option.map_eq_some_iff, Prod.mk.injEq,
        Prod.exists] at h
      obtain ⟨first, second, hrest, rfl, rfl⟩ := h
      obtain ⟨hfirst, d, hd, rfl⟩ := ih hrest
      refine ⟨fun x hx => ?_, d, hd, rfl⟩
      rcases List.mem_cons.mp hx with rfl | hx
      · exact hc
      · exact hfirst x hx

theorem cut_append_cons {p : Char → Bool} {before : List Char} (h : ∀ c ∈ before, p c = false)
    {c : Char} (hc : p c = true) (after : List Char) :
    cut p (before ++ c :: after) = some (before, after) := by
  induction before with
  | nil => simp [cut, hc]
  | cons d rest ih =>
    have hd : p d = false := h d List.mem_cons_self
    have hrest := ih fun x hx => h x (List.mem_cons_of_mem d hx)
    simp [cut, hd, hrest]

/-- No character of a text without the separator is the separator. -/
theorem beq_of_notMem {sep : Char} {l : List Char} (h : sep ∉ l) : ∀ c ∈ l, (c == sep) = false := by
  intro c hc
  refine beq_eq_false_iff_ne.mpr ?_
  rintro rfl
  exact h hc

/-! ## Fields -/

/-- The pieces of a text between the occurrences of a separator; a text without
it is a single piece. -/
def fields (sep : Char) : List Char → List (List Char)
  | [] => [[]]
  | c :: rest =>
    if c = sep then [] :: fields sep rest
    else match fields sep rest with
      | [] => [[c]]
      | piece :: pieces => (c :: piece) :: pieces

theorem fields_eq_splitOn (sep : Char) (l : List Char) : fields sep l = l.splitOn sep := by
  induction l with
  | nil => simp [fields]
  | cons c rest ih =>
    rw [List.splitOn_cons_eq_if_modifyHead, fields, ih]
    by_cases h : c = sep
    · simp [h]
    · cases hf : rest.splitOn sep with
      | nil => exact absurd hf (List.splitOn_ne_nil sep rest)
      | cons piece pieces => simp [h]

theorem fields_ne_nil (sep : Char) (l : List Char) : fields sep l ≠ [] := by
  rw [fields_eq_splitOn]
  exact List.splitOn_ne_nil sep l

theorem intercalate_fields (sep : Char) (l : List Char) :
    [sep].intercalate (fields sep l) = l := by
  rw [fields_eq_splitOn]
  exact List.intercalate_splitOn sep

theorem fields_intercalate {sep : Char} {pieces : List (List Char)} (hne : pieces ≠ [])
    (h : ∀ piece ∈ pieces, sep ∉ piece) : fields sep ([sep].intercalate pieces) = pieces := by
  rw [fields_eq_splitOn]
  exact List.splitOn_intercalate sep h hne

theorem fields_of_notMem {sep : Char} {l : List Char} (h : sep ∉ l) : fields sep l = [l] := by
  simpa using fields_intercalate (List.cons_ne_nil l []) (List.forall_mem_singleton.mpr h)

theorem notMem_of_mem_fields {sep : Char} {l piece : List Char} (h : piece ∈ fields sep l) :
    sep ∉ piece := by
  induction l generalizing piece with
  | nil =>
    rw [fields, List.mem_singleton] at h
    simp [h]
  | cons c rest ih =>
    rw [fields] at h
    by_cases hc : c = sep
    · rw [if_pos hc, List.mem_cons] at h
      rcases h with rfl | h
      · exact List.not_mem_nil
      · exact ih h
    · rw [if_neg hc] at h
      cases hf : fields sep rest with
      | nil => exact absurd hf (fields_ne_nil sep rest)
      | cons first more =>
        simp only [hf, List.mem_cons] at h ih
        rcases h with rfl | h
        · -- the character in front joins the first field
          have hfirst := ih (Or.inl rfl)
          simp [Ne.symm hc, hfirst]
        · exact ih (Or.inr h)

/-- A separator parts the fields in front of it from those behind it. -/
theorem fields_append_sep (sep : Char) (front back : List Char) :
    fields sep (front ++ sep :: back) = fields sep front ++ fields sep back := by
  induction front with
  | nil => simp [fields]
  | cons c rest ih =>
    rw [List.cons_append, fields, ih, fields]
    by_cases hc : c = sep
    · simp [hc]
    · cases hf : fields sep rest with
      | nil => exact absurd hf (fields_ne_nil sep rest)
      | cons piece pieces => simp [hc]

/-- What stands behind the last separator is the last field. -/
theorem fields_append_cons {sep : Char} {last : List Char} (h : sep ∉ last) (front : List Char) :
    fields sep (front ++ sep :: last) = fields sep front ++ [last] := by
  rw [fields_append_sep, fields_of_notMem h]

theorem intercalate_concat {sep : Char} {pieces : List (List Char)} (h : pieces ≠ [])
    (last : List Char) :
    [sep].intercalate (pieces ++ [last]) = [sep].intercalate pieces ++ sep :: last := by
  induction pieces with
  | nil => exact absurd rfl h
  | cons piece rest ih =>
    cases rest with
    | nil => simp
    | cons next more =>
      have hrest := ih (List.cons_ne_nil next more)
      simp only [List.cons_append, List.intercalate_cons_cons] at hrest ⊢
      simp only [hrest, List.append_assoc]

/-- With nothing behind the last separator, every piece has one behind it. -/
theorem intercalate_concat_nil (sep : Char) (pieces : List (List Char)) :
    [sep].intercalate (pieces ++ [[]]) = pieces.flatMap (· ++ [sep]) := by
  induction pieces with
  | nil => rfl
  | cons piece rest ih =>
    rw [List.flatMap_cons, ← ih]
    cases rest <;> simp

/-- Pieces with a separator behind each of them are taken apart at the separators. -/
theorem splitOn_flatMap {sep : Char} {pieces : List (List Char)}
    (h : ∀ piece ∈ pieces, sep ∉ piece) :
    (pieces.flatMap (· ++ [sep])).splitOn sep = pieces ++ [[]] := by
  have hall : ∀ piece ∈ pieces ++ [[]], sep ∉ piece := by
    intro piece hpiece
    rcases List.mem_append.mp hpiece with hpiece | hpiece
    · exact h piece hpiece
    · rw [List.mem_singleton.mp hpiece]
      exact List.not_mem_nil
  rw [← intercalate_concat_nil]
  exact List.splitOn_intercalate sep hall (by simp)

theorem mem_of_mem_intercalate {sep c : Char} {pieces : List (List Char)}
    (h : c ∈ [sep].intercalate pieces) : c = sep ∨ ∃ piece ∈ pieces, c ∈ piece := by
  induction pieces with
  | nil => exact absurd h (by simp)
  | cons piece rest ih =>
    cases rest with
    | nil => exact Or.inr ⟨piece, by simpa using h⟩
    | cons next more =>
      simp only [List.intercalate_cons_cons, List.append_assoc, List.mem_append,
        List.mem_singleton] at h
      rcases h with h | rfl | h
      · exact Or.inr ⟨piece, List.mem_cons_self, h⟩
      · exact Or.inl rfl
      · rcases ih h with rfl | ⟨other, hother, hc⟩
        · exact Or.inl rfl
        · exact Or.inr ⟨other, List.mem_cons_of_mem _ hother, hc⟩

/-! ## Lines -/

/-- The lines of a text. A line ends at a line feed, which may follow a carriage
return; the last line may lack its ending. -/
def lines : List Char → List (List Char)
  | [] => []
  | '\n' :: rest => [] :: lines rest
  | '\r' :: '\n' :: rest => [] :: lines rest
  | c :: rest =>
    match lines rest with
    | [] => [[c]]
    | line :: more => (c :: line) :: more

end TypingSession.Text
