import Mathlib.Data.List.Basic
import Mathlib.Data.List.TakeWhile
import TypingSession.Text.Blank

/-!
# TypingSession — trimmed texts

Trimming takes the blanks at the two ends of a text, and nothing else. What is left is
*tight*: there is no blank at an end of it. Between the blanks at the ends of a text there
is only one tight text, so to know what trimming gives it is enough to find one.

* `trim_eq` — what is tight, between blanks, is what trimming gives.
* `exists_eq_append_trim` — and trimming always gives that.
* `trim_eq_self_iff` — trimming leaves alone what is tight, and only that.
-/

namespace TypingSession.Text

/-- A text neither begins nor ends with a blank. -/
structure Tight (l : List Char) : Prop where
  head : ∀ c, l.head? = some c → isBlank c = false
  last : ∀ c, l.getLast? = some c → isBlank c = false

theorem tight_of_forall {l : List Char} (h : ∀ c ∈ l, isBlank c = false) : Tight l where
  head c hc := h c (List.mem_of_mem_head? hc)
  last c hc := h c (List.mem_of_getLast? hc)

theorem Tight.append {l m : List Char} (h : Tight l) (hl : l ≠ []) (between : List Char)
    (h' : Tight m) (hm : m ≠ []) : Tight (l ++ (between ++ m)) where
  head c hc := by
    rw [List.head?_append_of_ne_nil l hl] at hc
    exact h.head c hc
  last c hc := by
    rw [← List.append_assoc, List.getLast?_append_of_ne_nil (l ++ between) hm] at hc
    exact h'.last c hc

/-! ## One end -/

theorem trimStart_blank_append {a : List Char} (ha : ∀ c ∈ a, isBlank c = true) (l : List Char) :
    trimStart (a ++ l) = trimStart l :=
  List.dropWhile_append_of_pos ha

theorem trimStart_of_head {l : List Char} (h : ∀ c, l.head? = some c → isBlank c = false) :
    trimStart l = l := by
  cases l with
  | nil => rfl
  | cons c rest =>
    have hc : isBlank c = false := h c rfl
    unfold trimStart
    rw [List.dropWhile_cons_of_neg (by simp [hc])]

theorem head_trimStart {l : List Char} (c : Char) (hc : (trimStart l).head? = some c) :
    isBlank c = false := by
  have h := List.head?_dropWhile_not isBlank l
  unfold trimStart at hc
  rw [hc] at h
  exact h

theorem trimEnd_eq_reverse (l : List Char) : trimEnd l = (trimStart l.reverse).reverse := rfl

theorem trimEnd_append_blank {b : List Char} (hb : ∀ c ∈ b, isBlank c = true) (l : List Char) :
    trimEnd (l ++ b) = trimEnd l := by
  rw [trimEnd_eq_reverse, List.reverse_append, trimStart_blank_append (by simpa using hb),
    trimEnd_eq_reverse]

theorem trimEnd_of_last {l : List Char} (h : ∀ c, l.getLast? = some c → isBlank c = false) :
    trimEnd l = l := by
  have hhead : ∀ c, l.reverse.head? = some c → isBlank c = false := by
    rw [List.head?_reverse]
    exact h
  rw [trimEnd_eq_reverse, trimStart_of_head hhead, List.reverse_reverse]

theorem last_trimEnd {l : List Char} (c : Char) (hc : (trimEnd l).getLast? = some c) :
    isBlank c = false := by
  rw [trimEnd_eq_reverse, List.getLast?_reverse] at hc
  exact head_trimStart c hc

theorem exists_eq_trimEnd_append (l : List Char) :
    ∃ b, (∀ c ∈ b, isBlank c = true) ∧ l = trimEnd l ++ b := by
  refine ⟨(l.reverse.takeWhile isBlank).reverse, ?_, ?_⟩
  · intro c hc
    exact List.mem_takeWhile_imp (List.mem_reverse.mp hc)
  · unfold trimEnd
    rw [← List.reverse_append, List.takeWhile_append_dropWhile, List.reverse_reverse]

/-! ## Both ends -/

theorem trim_blank_append {a : List Char} (ha : ∀ c ∈ a, isBlank c = true) (l : List Char) :
    trim (a ++ l) = trim l := by
  unfold trim
  rw [trimStart_blank_append ha]

theorem Tight.trim_append_blank {m b : List Char} (hm : Tight m) (hb : ∀ c ∈ b, isBlank c = true) :
    trim (m ++ b) = m := by
  cases m with
  | nil =>
    have hnil : trim [] = [] := rfl
    rw [List.nil_append, ← List.append_nil b, trim_blank_append hb, hnil]
  | cons c rest =>
    have hhead : ∀ d, (c :: rest ++ b).head? = some d → isBlank d = false := hm.head
    unfold trim
    rw [trimStart_of_head hhead, trimEnd_append_blank hb, trimEnd_of_last hm.last]

/-- What is tight, between blanks, is what trimming gives. -/
theorem trim_eq {a m b : List Char} (ha : ∀ c ∈ a, isBlank c = true) (hm : Tight m)
    (hb : ∀ c ∈ b, isBlank c = true) : trim (a ++ (m ++ b)) = m := by
  rw [trim_blank_append ha, hm.trim_append_blank hb]

theorem tight_trim (l : List Char) : Tight (trim l) where
  head c hc := by
    obtain ⟨b, -, heq⟩ := exists_eq_trimEnd_append (trimStart l)
    -- what is left begins where the text without its leading blanks does
    refine head_trimStart (l := l) c ?_
    rw [heq]
    show (trim l ++ b).head? = some c
    rw [List.head?_append, hc]
    rfl
  last c hc := last_trimEnd c hc

theorem exists_eq_append_trim (l : List Char) :
    ∃ a b, (∀ c ∈ a, isBlank c = true) ∧ (∀ c ∈ b, isBlank c = true) ∧ l = a ++ (trim l ++ b) := by
  obtain ⟨b, hb, heq⟩ := exists_eq_trimEnd_append (trimStart l)
  refine ⟨l.takeWhile isBlank, b, fun c hc => List.mem_takeWhile_imp hc, hb, ?_⟩
  unfold trim
  rw [← heq]
  exact (List.takeWhile_append_dropWhile (p := isBlank) (l := l)).symm

/-- Blanks behind a text are taken, whatever it ends with. -/
theorem trim_append_blank {b : List Char} (hb : ∀ c ∈ b, isBlank c = true) (l : List Char) :
    trim (l ++ b) = trim l := by
  obtain ⟨a, b', ha, hb', heq⟩ := exists_eq_append_trim l
  have hblank : ∀ c ∈ b' ++ b, isBlank c = true := List.forall_mem_append.mpr ⟨hb', hb⟩
  have hl : l ++ b = a ++ (trim l ++ (b' ++ b)) := by
    calc l ++ b = a ++ (trim l ++ b') ++ b := by rw [← heq]
      _ = a ++ (trim l ++ (b' ++ b)) := by simp only [List.append_assoc]
  rw [hl, trim_eq ha (tight_trim l) hblank]

/-- Trimming the end does not move the start. -/
theorem head?_trim (l : List Char) : (trim l).head? = (trimStart l).head? := by
  obtain ⟨b, hb, heq⟩ := exists_eq_trimEnd_append (trimStart l)
  show (trimEnd (trimStart l)).head? = (trimStart l).head?
  cases hl : trimEnd (trimStart l) with
  | cons c rest =>
    rw [heq, hl]
    rfl
  | nil =>
    -- nothing but blanks is left, and no blank is left in front
    rw [hl, List.nil_append] at heq
    cases hhead : (trimStart l).head? with
    | none => rfl
    | some c =>
      have hblank := hb c (heq ▸ List.mem_of_mem_head? hhead)
      rw [head_trimStart c hhead] at hblank
      cases hblank

/-- The blanks of a text that ends with another character are all in front. -/
theorem exists_eq_blank_append_trim {l : List Char}
    (h : ∀ c, l.getLast? = some c → isBlank c = false) :
    ∃ a, (∀ c ∈ a, isBlank c = true) ∧ l = a ++ trim l := by
  obtain ⟨a, b, ha, hb, heq⟩ := exists_eq_append_trim l
  rcases List.eq_nil_or_concat b with rfl | ⟨b', d, rfl⟩
  · exact ⟨a, ha, by simpa using heq⟩
  · have hlast : l.getLast? = some d := by
      rw [heq]
      simp
    have hd := h d hlast
    rw [hb d (by simp)] at hd
    cases hd

theorem Tight.trim_eq_self {l : List Char} (h : Tight l) : trim l = l := by
  have hblank : ∀ c ∈ ([] : List Char), isBlank c = true := by simp
  simpa using trim_eq hblank h hblank

theorem trim_eq_self_iff {l : List Char} : trim l = l ↔ Tight l := by
  refine ⟨fun h => ?_, Tight.trim_eq_self⟩
  rw [← h]
  exact tight_trim l

@[simp] theorem trim_trim (l : List Char) : trim (trim l) = trim l := (tight_trim l).trim_eq_self

@[simp] theorem trim_trimStart (l : List Char) : trim (trimStart l) = trim l := by
  unfold trim
  rw [trimStart_of_head head_trimStart]

@[simp] theorem trim_trimEnd (l : List Char) : trim (trimEnd l) = trim l := by
  obtain ⟨b, hb, hl⟩ := exists_eq_trimEnd_append l
  calc trim (trimEnd l) = trim (trimEnd l ++ b) := (trim_append_blank hb (trimEnd l)).symm
    _ = trim l := by rw [← hl]

theorem trimStart_append_cons {c : Char} (hc : isBlank c = false) (before after : List Char) :
    trimStart (before ++ c :: after) = trimStart before ++ c :: after := by
  induction before with
  | nil => exact List.dropWhile_cons_of_neg (by simp [hc])
  | cons d rest ih =>
    unfold trimStart at ih ⊢
    cases hd : isBlank d with
    | true => simp only [List.cons_append, List.dropWhile_cons, hd, if_true, ih]
    | false => simp [hd]

theorem trimEnd_append_cons {c : Char} (hc : isBlank c = false) (before after : List Char) :
    trimEnd (before ++ c :: after) = before ++ c :: trimEnd after := by
  have hreverse : (before ++ c :: after).reverse = after.reverse ++ c :: before.reverse := by simp
  rw [trimEnd_eq_reverse, hreverse, trimStart_append_cons hc, trimEnd_eq_reverse]
  simp

/-- A text with a character that is not blank is trimmed on either side of it. -/
theorem trim_append_cons {c : Char} (hc : isBlank c = false) (before after : List Char) :
    trim (before ++ c :: after) = trimStart before ++ c :: trimEnd after := by
  unfold trim
  rw [trimStart_append_cons hc, trimEnd_append_cons hc]

theorem mem_of_mem_trim {l : List Char} {c : Char} (h : c ∈ trim l) : c ∈ l := by
  obtain ⟨a, b, -, -, heq⟩ := exists_eq_append_trim l
  rw [heq]
  exact List.mem_append_right a (List.mem_append_left b h)

end TypingSession.Text
