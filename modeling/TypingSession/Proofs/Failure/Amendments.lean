import Mathlib.Data.List.Infix
import TypingSession.Failure.Amendment

/-!
# TypingSession — failures on their way out

A failure that is amended several times goes through a stack after each change, and the
last of these is what comes out. As long as the changes only put frames in front, the frames
that are there stay where they are, seen from the end: the stacks grow towards the outside,
and say throughout what went wrong.

* `toList_applyAll` — the frames that several changes put in front, the last change outermost.
* `getElem?_history` — the stack after the first so many changes.
* `history_grows` — what happens to frames and depth on the way, if changes only add.
-/

namespace TypingSession

namespace Amendment

/-- Whether a change only puts frames in front. -/
def onlyAdds : Amendment → Bool
  | prepend _ | pushOuter _ => true
  | append _ | replace _ => false

/-- The frames that a change puts in front. -/
def frames : Amendment → List Frame
  | prepend outer => outer.toList
  | pushOuter frame => [frame]
  | append _ | replace _ => []

theorem toList_apply {change : Amendment} (h : change.onlyAdds = true) (s : ErrorStack) :
    (change.apply s).toList = change.frames ++ s.toList := by
  cases change with
  | prepend outer | pushOuter frame => rfl
  | append inner | replace other => exact absurd h (by simp [onlyAdds])

/-- The last change is the outermost. -/
theorem toList_applyAll {changes : List Amendment} (h : changes.all onlyAdds = true)
    (s : ErrorStack) :
    (applyAll changes s).toList = changes.reverse.flatMap frames ++ s.toList := by
  induction changes generalizing s with
  | nil => rfl
  | cons change rest ih =>
    rw [List.all_cons, Bool.and_eq_true] at h
    show (applyAll rest (change.apply s)).toList = _
    rw [ih h.2, toList_apply h.1, List.reverse_cons, List.flatMap_append, List.append_assoc]
    simp

/-! ## The stacks on the way -/

theorem length_history (changes : List Amendment) (s : ErrorStack) :
    (history changes s).length = changes.length + 1 := by
  induction changes generalizing s with
  | nil => rfl
  | cons change rest ih => rw [history, List.length_cons, ih, List.length_cons]

/-- On the way stand the stacks after the first change, after the first two, and so on. -/
theorem getElem?_history {changes : List Amendment} {i : Nat} (h : i ≤ changes.length)
    (s : ErrorStack) : (history changes s)[i]? = some (applyAll (changes.take i) s) := by
  induction changes generalizing i s with
  | nil =>
    obtain rfl : i = 0 := Nat.le_zero.mp h
    rfl
  | cons change rest ih =>
    cases i with
    | zero => rfl
    | succ i => exact ih (Nat.le_of_succ_le_succ h) (change.apply s)

/-- The last of the stacks is what comes out. -/
theorem getLast?_history (changes : List Amendment) (s : ErrorStack) :
    (history changes s).getLast? = some (applyAll changes s) := by
  rw [List.getLast?_eq_getElem?, length_history, Nat.add_sub_cancel,
    getElem?_history (Nat.le_refl _), List.take_length]

theorem mem_history_iff {changes : List Amendment} {s t : ErrorStack} :
    t ∈ history changes s ↔ ∃ i ≤ changes.length, t = applyAll (changes.take i) s := by
  rw [List.mem_iff_getElem?]
  constructor
  · rintro ⟨i, hi⟩
    have hlt := (List.getElem?_eq_some_iff.mp hi).1
    rw [length_history] at hlt
    have hle : i ≤ changes.length := by omega
    rw [getElem?_history hle] at hi
    exact ⟨i, hle, (Option.some.inj hi).symm⟩
  · rintro ⟨i, hle, rfl⟩
    exact ⟨i, getElem?_history hle s⟩

section OnlyAdds

variable {changes : List Amendment} (h : changes.all onlyAdds = true)

include h

theorem exists_outer_of_mem_history {s t : ErrorStack} (ht : t ∈ history changes s) :
    ∃ outer, t.toList = outer ++ s.toList := by
  obtain ⟨i, -, rfl⟩ := mem_history_iff.mp ht
  have htake : (changes.take i).all onlyAdds = true := by
    rw [List.all_eq_true] at h ⊢
    exact fun change hchange => h change (List.mem_of_mem_take hchange)
  exact ⟨_, toList_applyAll htake s⟩

/-- Changes that only add leave the frames of a stack at the end of all later ones. So the depth
does not fall on the way, and all the stacks say the same of what went wrong. -/
theorem history_grows (s : ErrorStack) :
    (history changes s).Pairwise (fun t t' => t.toList <:+ t'.toList ∧ t.depth ≤ t'.depth) ∧
      ∀ t ∈ history changes s, t.mostSpecific = s.mostSpecific := by
  constructor
  · induction changes generalizing s with
    | nil => exact List.pairwise_singleton _ s
    | cons change rest ih =>
      rw [List.all_cons, Bool.and_eq_true] at h
      refine List.Pairwise.cons ?_ (ih h.2 (change.apply s))
      intro t ht
      obtain ⟨outer, houter⟩ := exists_outer_of_mem_history h.2 ht
      rw [toList_apply h.1] at houter
      have hsuffix : s.toList <:+ t.toList :=
        ⟨outer ++ change.frames, by rw [houter, List.append_assoc]⟩
      exact ⟨hsuffix, hsuffix.length_le⟩
  · intro t ht
    obtain ⟨outer, houter⟩ := exists_outer_of_mem_history h ht
    exact ErrorStack.mostSpecific_eq_of_toList houter

end OnlyAdds

end Amendment

end TypingSession
