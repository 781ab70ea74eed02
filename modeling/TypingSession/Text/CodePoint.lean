/-!
# TypingSession — sets of code points

A set of characters is written as a list of closed ranges of code points, in
ascending order and without overlap. Membership walks the ranges and stops at
the first one that begins beyond the code point.
-/

namespace TypingSession.Text

/-- Closed ranges of code points, ascending and disjoint. -/
abbrev CodePoints := List (Nat × Nat)

/-- Whether a code point lies in one of the ranges. -/
def CodePoints.covers : CodePoints → Nat → Bool
  | [], _ => false
  | (low, high) :: rest, n => low ≤ n && (n ≤ high || CodePoints.covers rest n)

theorem CodePoints.exists_of_covers {ranges : CodePoints} {n : Nat}
    (h : ranges.covers n = true) : ∃ r ∈ ranges, r.1 ≤ n ∧ n ≤ r.2 := by
  induction ranges with
  | nil => exact absurd h (by simp [covers])
  | cons r rest ih =>
    obtain ⟨low, high⟩ := r
    simp only [covers, Bool.and_eq_true, Bool.or_eq_true, decide_eq_true_eq] at h
    rcases h with ⟨hlow, hhigh | hrest⟩
    · exact ⟨(low, high), List.mem_cons_self, hlow, hhigh⟩
    · obtain ⟨r, hr, hn⟩ := ih hrest
      exact ⟨r, List.mem_cons_of_mem _ hr, hn⟩

end TypingSession.Text
