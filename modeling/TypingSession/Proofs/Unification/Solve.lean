import TypingSession.Proofs.Unification.SolvedForm
import TypingSession.Unification.Solver

/-!
# TypingSession — solving one equation

`Solver.solve_cases` says all that solving an equation can do: the unknown stands
for a term already, or it is followed to an unknown, and then the equation says
nothing new, or fails the occurs check, or adds one binding. Everything else
about solving is derived from it.

* `SolvedForm.of_solve`, `MostGeneral.of_solve` — what a recorded equation keeps.
* `MostGeneral.not_solves_of_occurs` — the occurs check refuses only equations
  that nothing solves.
-/

namespace TypingSession

variable {α : Type} [Unifiable α]

namespace Substitution

/-! ## Solutions -/

/-- A substitution solves equations when each unknown and its term become equal. -/
def Solves (s : Substitution α) (equations : List (Nat × α)) : Prop :=
  ∀ e ∈ equations, s.apply (ofUnknown e.1) = s.apply e.2

/-- A solution of equations that every solution of them absorbs. -/
structure MostGeneral (s : Substitution α) (equations : List (Nat × α)) : Prop where
  solves : s.Solves equations
  absorbed : ∀ r : Substitution α, r.Solves equations → ∀ t, r.apply (s.apply t) = r.apply t

theorem solves_append {s : Substitution α} {es fs : List (Nat × α)} :
    s.Solves (es ++ fs) ↔ s.Solves es ∧ s.Solves fs := by
  simp only [Solves, List.mem_append, or_imp, forall_and]

theorem solves_singleton {s : Substitution α} {u : Nat} {t : α} :
    s.Solves [(u, t)] ↔ s.apply (ofUnknown u) = s.apply t := by
  simp only [Solves, List.mem_singleton, forall_eq]

end Substitution

variable [LawfulHasUnknowns α]

namespace Solver

/-! ## What solving can do -/

theorem solve_cases (s : Solver α) (u : Nat) (t : α) :
    ((∀ v, s.substitution.apply (ofUnknown u) ≠ ofUnknown v) ∧
      s.solve u t = .error (.alreadySolved u (s.substitution.apply (ofUnknown u)))) ∨
    ∃ v, s.substitution.apply (ofUnknown u) = ofUnknown v ∧
      ((s.substitution.apply t = ofUnknown v ∧ s.solve u t = .ok s) ∨
       (s.substitution.apply t ≠ ofUnknown v ∧ v ∈ unknowns (s.substitution.apply t) ∧
          s.solve u t = .error (.occurs v (s.substitution.apply t))) ∨
       (v ∉ unknowns (s.substitution.apply t) ∧
          s.solve u t = .ok
            ⟨s.nextUnknown, s.substitution.compose (.single v (s.substitution.apply t))⟩)) := by
  cases hcurrent : unknown? (s.substitution.apply (ofUnknown u)) with
  | none =>
    refine Or.inl ⟨fun v hv => ?_, by simp only [solve, hcurrent]⟩
    rw [LawfulHasUnknowns.unknown?_eq_some_iff.mpr hv] at hcurrent
    exact absurd hcurrent (by simp)
  | some v =>
    -- the unknown has been followed to `v`
    refine Or.inr ⟨v, LawfulHasUnknowns.unknown?_eq_some_iff.mp hcurrent, ?_⟩
    by_cases hsame : unknown? (s.substitution.apply t) = some v
    · refine Or.inl ⟨LawfulHasUnknowns.unknown?_eq_some_iff.mp hsame, ?_⟩
      simp only [solve, hcurrent, if_pos hsame]
    · have hne : s.substitution.apply t ≠ ofUnknown v := fun h =>
        hsame (LawfulHasUnknowns.unknown?_eq_some_iff.mpr h)
      by_cases hocc : v ∈ unknowns (s.substitution.apply t)
      · refine Or.inr (Or.inl ⟨hne, hocc, ?_⟩)
        simp only [solve, hcurrent, if_neg hsame, if_pos hocc]
      · refine Or.inr (Or.inr ⟨hocc, ?_⟩)
        simp only [solve, hcurrent, if_neg hsame, if_neg hocc]

/-- An equation that is recorded says nothing new, or adds one binding. -/
theorem solve_ok {s s' : Solver α} {u : Nat} {t : α} (h : s.solve u t = .ok s') :
    ∃ v, s.substitution.apply (ofUnknown u) = ofUnknown v ∧
      ((s.substitution.apply t = ofUnknown v ∧ s' = s) ∨
       (v ∉ unknowns (s.substitution.apply t) ∧
          s' = ⟨s.nextUnknown,
            s.substitution.compose (.single v (s.substitution.apply t))⟩)) := by
  rcases s.solve_cases u t with ⟨-, hs⟩ | ⟨v, hv, ⟨ht, hs⟩ | ⟨-, -, hs⟩ | ⟨hocc, hs⟩⟩
  all_goals rw [hs] at h
  · exact absurd h (by simp)
  · exact ⟨v, hv, Or.inl ⟨ht, (Except.ok.inj h).symm⟩⟩
  · exact absurd h (by simp)
  · exact ⟨v, hv, Or.inr ⟨hocc, (Except.ok.inj h).symm⟩⟩

/-- An equation that is refused as solved is one whose unknown stands for something
other than an unknown. -/
theorem solve_alreadySolved_iff {s : Solver α} {u : Nat} {t : α} :
    (∃ v x, s.solve u t = .error (.alreadySolved v x)) ↔
      ∀ v, s.substitution.apply (ofUnknown u) ≠ ofUnknown v := by
  constructor
  · rintro ⟨w, x, h⟩
    rcases s.solve_cases u t with ⟨hne, -⟩ | ⟨v, -, ⟨-, hs⟩ | ⟨-, -, hs⟩ | ⟨-, hs⟩⟩
    · exact hne
    all_goals
      rw [hs] at h
      exact absurd h (by simp)
  · intro hne
    rcases s.solve_cases u t with ⟨-, hs⟩ | ⟨v, hv, -⟩
    · exact ⟨_, _, hs⟩
    · exact absurd hv (hne v)

/-- An equation that fails the occurs check: its unknown has been followed to one
that the term holds, and that the term is not. -/
theorem solve_occurs {s : Solver α} {u w : Nat} {t x : α} (h : s.solve u t = .error (.occurs w x)) :
    s.substitution.apply (ofUnknown u) = ofUnknown w ∧
      w ∈ unknowns (s.substitution.apply t) ∧ s.substitution.apply t ≠ ofUnknown w := by
  rcases s.solve_cases u t with ⟨-, hs⟩ | ⟨v, hv, ⟨-, hs⟩ | ⟨hne, hocc, hs⟩ | ⟨-, hs⟩⟩
  all_goals rw [hs] at h
  · exact absurd h (by simp)
  · exact absurd h (by simp)
  · obtain ⟨rfl, -⟩ := SolveError.occurs.inj (Except.error.inj h)
    exact ⟨hv, hocc, hne⟩
  · exact absurd h (by simp)

theorem solve_nextUnknown {s s' : Solver α} {u : Nat} {t : α} (h : s.solve u t = .ok s') :
    s'.nextUnknown = s.nextUnknown := by
  obtain ⟨v, -, ⟨-, rfl⟩ | ⟨-, rfl⟩⟩ := solve_ok h
  · rfl
  · rfl

end Solver

namespace Substitution

/-! ## Solved form -/

/-- In solved form, what an unknown is followed to is unbound. -/
theorem SolvedForm.get?_of_apply_ofUnknown {s : Substitution α} (h : s.SolvedForm) {u v : Nat}
    (hv : s.apply (ofUnknown u) = ofUnknown v) : s.get? v = none := by
  apply h.get?_eq_none_of_mem (t := ofUnknown u)
  rw [hv, mem_unknowns_ofUnknown]

theorem SolvedForm.of_solve {s s' : Solver α} {u : Nat} {t : α}
    (h : s.substitution.SolvedForm) (hs : s.solve u t = .ok s') :
    s'.substitution.SolvedForm := by
  obtain ⟨v, -, ⟨-, rfl⟩ | ⟨hocc, rfl⟩⟩ := Solver.solve_ok hs
  · exact h
  · exact h.compose_single (fun w hw => h.get?_eq_none_of_mem hw) hocc

/-- In solved form, recording an equation changes nothing or binds one unknown
that was not bound. -/
theorem SolvedForm.bound_of_solve {s s' : Solver α} {u : Nat} {t : α}
    (h : s.substitution.SolvedForm) (hs : s.solve u t = .ok s') :
    s'.substitution = s.substitution ∨
      s'.substitution.size = s.substitution.size + 1 ∧
        ∃ v, s.substitution.get? v = none ∧
          ∀ w, s'.substitution.get? w = none ↔ w ≠ v ∧ s.substitution.get? w = none := by
  obtain ⟨v, hv, ⟨-, rfl⟩ | ⟨-, rfl⟩⟩ := Solver.solve_ok hs
  · exact Or.inl rfl
  · have hnone := h.get?_of_apply_ofUnknown hv
    exact Or.inr ⟨size_compose_single hnone, v, hnone, fun w => get?_compose_single_eq_none⟩

/-! ## Most general solutions -/

theorem mostGeneral_empty : (∅ : Substitution α).MostGeneral [] where
  solves _ he := absurd he List.not_mem_nil
  absorbed r _ t := by rw [apply_empty]

namespace MostGeneral

variable {s s' : Solver α} {equations : List (Nat × α)} {u : Nat} {t : α}

/-- Under a solution of the equations and of a new one, the unknown that the new
one is followed to agrees with the term that it would be bound to. -/
theorem image_eq_of_solves (h : s.substitution.MostGeneral equations) {r : Substitution α}
    {v : Nat} (hr : r.Solves (equations ++ [(u, t)]))
    (hv : s.substitution.apply (ofUnknown u) = ofUnknown v) :
    r.image v = r.apply (s.substitution.apply t) := by
  obtain ⟨hold, hnew⟩ := solves_append.mp hr
  calc r.image v = r.apply (s.substitution.apply (ofUnknown u)) := by rw [hv, apply_ofUnknown]
    _ = r.apply (ofUnknown u) := h.absorbed r hold _
    _ = r.apply t := solves_singleton.mp hnew
    _ = r.apply (s.substitution.apply t) := (h.absorbed r hold t).symm

theorem of_solve (h : s.substitution.MostGeneral equations) (hs : s.solve u t = .ok s') :
    s'.substitution.MostGeneral (equations ++ [(u, t)]) := by
  obtain ⟨v, hv, ⟨ht, rfl⟩ | ⟨hocc, rfl⟩⟩ := Solver.solve_ok hs
  · -- the equation held already
    refine ⟨solves_append.mpr ⟨h.solves, solves_singleton.mpr (hv.trans ht.symm)⟩, ?_⟩
    intro r hr
    exact h.absorbed r (solves_append.mp hr).1
  · refine ⟨solves_append.mpr ⟨?_, solves_singleton.mpr ?_⟩, ?_⟩
    · -- what held before the binding holds after it
      intro e he
      rw [apply_compose_eq, apply_compose_eq, h.solves e he]
    · -- the term does not hold the unknown, so the binding leaves it alone
      rw [apply_compose_eq, apply_compose_eq, hv, apply_ofUnknown, image_single_self,
        apply_single_of_notMem hocc]
    · -- every solution makes the unknown and the term agree
      intro r hr x
      rw [apply_compose_eq, apply_single_absorbed (h.image_eq_of_solves hr hv)]
      exact h.absorbed r (solves_append.mp hr).1 x

/-- Nothing solves an equation that fails the occurs check, together with the
equations recorded before it. -/
theorem not_solves_of_occurs (h : s.substitution.MostGeneral equations) {w : Nat} {x : α}
    (hs : s.solve u t = .error (.occurs w x)) (r : Substitution α) :
    ¬ r.Solves (equations ++ [(u, t)]) := by
  intro hr
  obtain ⟨hw, hocc, hne⟩ := Solver.solve_occurs hs
  -- a solution would make the unknown equal to a term that properly contains it
  have himage := h.image_eq_of_solves hr hw
  exact LawfulHasUnknowns.replace_ne_of_mem_occurrences (mem_unknowns.mp hocc) hne himage.symm

end MostGeneral

end Substitution

end TypingSession
