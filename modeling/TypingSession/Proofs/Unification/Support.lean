import TypingSession.Proofs.Unification.Solve

/-!
# TypingSession — the unknowns of a substitution

A substitution stays *within* a set of unknowns when it binds only unknowns of that
set, to terms that hold only unknowns of it. Two sets matter here. Within the
unknowns below a counter, a substitution says nothing of the unknowns still to be
handed out; within the unknowns other than a given one, it says nothing of that one.

* `Within.of_solve` — what is within a set stays there when an equation between
  unknowns of the set is recorded, whichever of them the equation ends up binding.
* `Within.size_le` — below a counter there are no more bindings than the counter says.
* `Within.untouched`, `Within.not_alreadySolved` — an unknown that a substitution says
  nothing of stands for itself, and can be solved.
-/

namespace TypingSession

namespace Substitution

variable {α : Type} [HasUnknowns α] {s : Substitution α} {P Q : Nat → Prop}

/-- The substitution binds only unknowns with a property, to terms whose unknowns all
have it. -/
def Within (P : Nat → Prop) (s : Substitution α) : Prop :=
  ∀ u t, s.get? u = some t → P u ∧ ∀ v ∈ unknowns t, P v

theorem within_empty : (∅ : Substitution α).Within P := by
  intro u t h
  rw [get?_empty] at h
  exact absurd h (by simp)

theorem Within.mono (h : s.Within P) (hPQ : ∀ u, P u → Q u) : s.Within Q := by
  intro u t hu
  obtain ⟨hP, ht⟩ := h u t hu
  exact ⟨hPQ u hP, fun v hv => hPQ v (ht v hv)⟩

/-- The unknowns that are bound are keys below the bound, and no two keys are the same. -/
theorem Within.size_le {n : Nat} (h : s.Within (· < n)) : s.size ≤ n := by
  have hsubset : s.bindings.keys ⊆ List.range n := by
    intro u hu
    rw [Std.ExtTreeMap.mem_keys, Std.ExtTreeMap.mem_iff_isSome_getElem?] at hu
    obtain ⟨t, ht⟩ := Option.isSome_iff_exists.mp hu
    exact List.mem_range.mpr (h u t ht).1
  have hlength := s.bindings.nodup_keys.length_le_of_subset hsubset
  rw [Std.ExtTreeMap.length_keys, List.length_range] at hlength
  exact hlength

variable [LawfulHasUnknowns α]

/-- Application brings in no unknown from outside. -/
theorem Within.apply (h : s.Within P) {t : α} (ht : ∀ v ∈ unknowns t, P v) :
    ∀ v ∈ unknowns (s.apply t), P v := by
  intro v hv
  rcases mem_unknowns_apply_cases hv with ⟨u, b, hu, hvb⟩ | ⟨hvt, -⟩
  · exact (h u b hu).2 v hvb
  · exact ht v hvt

theorem Within.compose_single (h : s.Within P) {v : Nat} {x : α} (hv : P v)
    (hx : ∀ w ∈ unknowns x, P w) (hocc : v ∉ unknowns x) :
    (s.compose (single v x)).Within P := by
  intro u t hu
  rw [get?_compose, Option.or_eq_some_iff, Option.map_eq_some_iff, get?_single_eq_some] at hu
  rcases hu with ⟨b, hb, rfl⟩ | ⟨-, rfl, rfl⟩
  · -- the unknowns of an old term are its own and those of the new one
    obtain ⟨hPu, hPb⟩ := h u b hb
    refine ⟨hPu, fun w hw => ?_⟩
    rcases (mem_unknowns_apply_single hocc hw).2 with hwb | hwx
    · exact hPb w hwb
    · exact hx w hwx
  · exact ⟨hv, hx⟩

/-- A substitution says nothing of an unknown that it stays away from. -/
theorem Within.untouched {u : Nat} (h : s.Within (· ≠ u)) :
    s.get? u = none ∧ (∀ v t, s.get? v = some t → u ∉ unknowns t) ∧
      s.apply (ofUnknown u) = ofUnknown u := by
  have hnone : s.get? u = none := by
    cases hget : s.get? u with
    | none => rfl
    | some t => exact absurd rfl (h u t hget).1
  refine ⟨hnone, fun v t hv hu => (h v t hv).2 u hu rfl, ?_⟩
  rw [apply_ofUnknown, image_eq_ofUnknown hnone]

end Substitution

namespace Substitution.Within

variable {α : Type} [Unifiable α] [LawfulHasUnknowns α] {s s' : Solver α} {P : Nat → Prop}
  {u : Nat} {t : α}

/-- Recording an equation follows its unknown and rewrites its term before it binds the
one to the other, and neither leads outside. -/
theorem of_solve (h : s.substitution.Within P) (hu : P u) (ht : ∀ v ∈ unknowns t, P v)
    (hs : s.solve u t = .ok s') : s'.substitution.Within P := by
  obtain ⟨v, hv, ⟨-, rfl⟩ | ⟨hocc, rfl⟩⟩ := Solver.solve_ok hs
  · exact h
  · -- `v` has come out of the substitution, as what `u` stands for
    have hPv : P v := by
      apply h.apply (t := ofUnknown u)
      · intro w hw
        rwa [mem_unknowns_ofUnknown.mp hw]
      · rw [hv, mem_unknowns_ofUnknown]
    exact h.compose_single hPv (h.apply ht) hocc

theorem not_alreadySolved (h : s.substitution.Within (· ≠ u)) (v : Nat) (x : α) :
    s.solve u t ≠ .error (.alreadySolved v x) := by
  intro hs
  have hne := Solver.solve_alreadySolved_iff.mp ⟨v, x, hs⟩
  obtain ⟨-, -, hself⟩ := h.untouched
  exact hne u hself

end Substitution.Within

end TypingSession
