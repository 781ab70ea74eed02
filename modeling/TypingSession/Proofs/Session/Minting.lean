import TypingSession.Proofs.Session.Pace

/-!
# TypingSession — the unknowns of a session

A session counts its unknowns from zero. As long as the failure of a lifted solver
ends the run in which it happens, the unknowns that are handed out anywhere in the
run, in solvers at every depth and on both levels, are 0, 1, 2 and so on, and the
counter is their number at every event that is not part of a failure
(`CheckProgram.minted_eq_range`). Other failures may be caught at will.
-/

namespace TypingSession

open Observable (moment)

/-- No failure of a lifted solver is caught: only failures follow it. -/
def Trace.LiftFailuresEscape (t : Trace) : Prop :=
  t.Pairwise fun ev later => ev.isLiftFailure = true → later.stage.isFailure = true

theorem Session.orderly_start (e : Environment) (shelf : Shelf) :
    (moment (Session.start e shelf)).Orderly :=
  Execution.orderly_session (Nat.zero_le _)

namespace Trace

/-- Failures hand out nothing. -/
theorem minted_eq_nil_of_failures {t : Trace} (h : ∀ ev ∈ t, ev.stage.isFailure = true) :
    t.minted = [] := by
  unfold minted
  rw [List.filterMap_eq_nil_iff]
  intro ev hev
  exact Event.minted?_of_isFailure (h ev hev)

theorem LiftFailuresEscape.minted_after {t before after : Trace} {ev : Event}
    (h : t.LiftFailuresEscape) (heq : t = before ++ ev :: after)
    (hlift : ev.isLiftFailure = true) : after.minted = [] := by
  unfold LiftFailuresEscape at h
  rw [heq, List.pairwise_append, List.pairwise_cons] at h
  apply minted_eq_nil_of_failures
  intro later hlater
  exact h.2.1.1 later hlater hlift

/-- Before an event that tells of no failure there is no failed lifted solver. -/
theorem LiftFailuresEscape.before_calm {t before after : Trace} {ev : Event}
    (h : t.LiftFailuresEscape) (heq : t = before ++ ev :: after)
    (hcalm : ev.stage.isFailure = false) :
    ∀ ev' ∈ before ++ [ev], ev'.isLiftFailure = false := by
  unfold LiftFailuresEscape at h
  rw [heq, List.pairwise_append] at h
  intro ev' hev'
  rw [← Bool.not_eq_true]
  intro hlift
  -- otherwise only failures would follow it, and `ev` among them
  have hfailed : ev.stage.isFailure = true := by
    rcases List.mem_append.mp hev' with hbefore | hself
    · exact h.2.2 ev' hbefore ev List.mem_cons_self hlift
    · rw [← List.mem_singleton.mp hself]
      exact Event.isFailure_of_isLiftFailure hlift
  rw [hfailed] at hcalm
  exact absurd hcalm (by simp)

section Escaping

variable {t : Trace} {n : Nat} (h : t.Paced n) (hescape : t.LiftFailuresEscape)

include h hescape

theorem Paced.minted_eq_range' : t.minted = List.range' n t.minted.length :=
  h.minted_eq fun _ _ _ heq hlift _ => hescape.minted_after heq hlift

/-- At an event that tells of no failure the counter is ahead of the start by what
has been handed out. -/
theorem Paced.counter_eq {before after : Trace} {ev : Event} (heq : t = before ++ ev :: after)
    (hcalm : ev.stage.isFailure = false) :
    ev.moment.counter = n + (minted (before ++ [ev])).length := by
  have hsplit : t = (before ++ [ev]) ++ after := by rw [heq, List.append_cons]
  have hpaced : Paced n (before ++ [ev]) := (paced_append.mp (hsplit ▸ h)).1
  have hcounter := hpaced.counterFrom_eq (hescape.before_calm heq hcalm)
  rw [counterFrom_append] at hcounter
  exact hcounter

theorem Paced.counterFrom_eq_of_calm (hcalm : t.Calm) :
    counterFrom n t = n + t.minted.length := by
  -- the counter behind a trace is that of its last event
  rcases List.eq_nil_or_concat t with rfl | ⟨before, ev, rfl⟩
  · rfl
  · rw [List.concat_eq_append] at h hescape hcalm ⊢
    rw [counterFrom_append]
    exact h.counter_eq hescape rfl (hcalm ev List.getLast?_concat)

/-- As many unknowns as there are below the limit can be handed out, and no more. -/
theorem Paced.minted_length_le (hn : n ≤ unknownLimit) :
    n + t.minted.length ≤ unknownLimit := by
  have hrange := h.minted_eq_range' hescape
  cases hlength : t.minted.length with
  | zero => exact hn
  | succ k =>
    -- the last unknown that is handed out is below the limit
    have hlast : n + k ∈ t.minted := by
      rw [hrange, hlength, List.mem_range'_1]
      omega
    have := h.lt_limit _ hlast
    omega

end Escaping

end Trace

/-- **Unknown accounting.** Take a run without standalone solvers in which no failure
of a lifted solver is caught. What is handed out anywhere in it is 0, 1, 2, ... in the
order of time; at every event that is not part of a failure, the counter of the session,
or of the solver that is at work in it, is the number handed out so far; and a request
finds nothing left exactly when the limit has been handed out. -/
theorem CheckProgram.minted_eq_range (p : CheckProgram) (e : Environment) (shelf : Shelf)
    (hlift : (p.run (.start e shelf)).trace.LiftOnly)
    (hescape : (p.run (.start e shelf)).trace.LiftFailuresEscape) :
    let r := p.run (.start e shelf)
    let minted := r.trace.minted
    minted = List.range minted.length ∧
    (∀ before ev after, r.trace = before ++ ev :: after → ev.stage.isFailure = false →
      let sofar := (Trace.minted (before ++ [ev])).length
      (∀ state, ev.moment = .checking state → state.nextUnknown = sofar) ∧
      (∀ level solver state, ev.moment = .solving level solver state →
        solver.nextUnknown = sofar ∧ (solver.fresh? = none ↔ sofar = unknownLimit))) ∧
    (∀ s, r.outcome = .finished s → s.state.nextUnknown = minted.length) ∧
    minted.length ≤ unknownLimit ∧
    (r.outcome = .exhausted → minted.length = unknownLimit) := by
  intro r minted
  have hsteady : r.Steady (.start e shelf) :=
    Execution.steady_law.checkProgram p _ (Session.orderly_start e shelf) hlift
  have hpaced : r.trace.Paced 0 := hsteady.paced
  have hsofar : ∀ before ev after, r.trace = before ++ ev :: after →
      ev.stage.isFailure = false →
      ev.moment.counter = (Trace.minted (before ++ [ev])).length := by
    intro before ev after heq hcalm
    have hcounter := hpaced.counter_eq hescape heq hcalm
    rwa [Nat.zero_add] at hcounter
  have hbound : minted.length ≤ unknownLimit := by
    have hle := hpaced.minted_length_le hescape (Nat.zero_le _)
    rwa [Nat.zero_add] at hle
  refine ⟨?_, ?_, ?_, hbound, ?_⟩
  · -- in order, without gaps or repetitions
    rw [List.range_eq_range']
    exact hpaced.minted_eq_range' hescape
  · -- the counter of the session, and that of a solver
    intro before ev after heq hcalm sofar
    have hcounter := hsofar before ev after heq hcalm
    constructor
    · intro state hmoment
      rw [hmoment] at hcounter
      exact hcounter
    · intro level solver state hmoment
      rw [hmoment] at hcounter
      have hnext : solver.nextUnknown = sofar := hcounter
      have hle : sofar ≤ unknownLimit := by
        have hlength : minted.length = sofar + (Trace.minted after).length := by
          show (Trace.minted r.trace).length = _
          rw [heq, List.append_cons, Trace.minted_append,
            List.length_append]
        omega
      refine ⟨hnext, ?_⟩
      rw [Solver.fresh?_eq_none_iff, hnext]
      omega
  · -- a run that succeeds leaves the counter of its last event
    intro s hs
    have hend : r.outcome.final? = some s := by rw [hs]; rfl
    have hcalm : r.trace.Calm := hsteady.calm (by rw [hs]; intro _ _; simp)
    have hcounter := hpaced.counterFrom_eq_of_calm hescape hcalm
    rw [Nat.zero_add] at hcounter
    exact (hsteady.counter_eq s hend).trans hcounter
  · -- a run that finds nothing left has come up to the limit
    intro hexhausted
    have hcalm : r.trace.Calm := hsteady.calm (by rw [hexhausted]; intro _ _; simp)
    have hcounter := hpaced.counterFrom_eq_of_calm hescape hcalm
    rw [Nat.zero_add] at hcounter
    exact hcounter.symm.trans (hsteady.full hexhausted)

/-- Solvers on both levels, inside each other and one after the other, with two
failures that are caught. -/
def CheckProgram.nestedSolvers : CheckProgram :=
  let failing := CheckProgram.ofList [.act (.fail (.single "no" none))]
  .ofList [
    .unify .type .lift (.ofList [
      .act .freshUnknown,
      .check (.ofList [
        .unify .kind .lift (.ofList [.act .freshUnknown, .act .fresh]),
        .wrap .attempt failing]),
      .attempt (.ofList [.check failing]),
      .act .freshUnknown]),
    .unify .kind .lift (.ofList [.act .fresh])]

theorem CheckProgram.nestedSolvers_minted :
    let r := nestedSolvers.run (.start ∅ ∅)
    r.trace.LiftOnly ∧ r.trace.LiftFailuresEscape ∧ r.trace.minted = List.range 5 ∧
      ∀ s, r.outcome = .finished s → s.state.nextUnknown = 5 := by
  intro r
  have hlift : r.trace.LiftOnly := by
    unfold Trace.LiftOnly
    decide
  have hescape : r.trace.LiftFailuresEscape := by
    unfold Trace.LiftFailuresEscape
    decide
  have hlength : r.trace.minted.length = 5 := by decide
  obtain ⟨hrange, -, hfinal, -, -⟩ := minted_eq_range nestedSolvers ∅ ∅ hlift hescape
  refine ⟨hlift, hescape, ?_, ?_⟩
  · rw [hlength] at hrange
    exact hrange
  · intro s hs
    exact (hfinal s hs).trans hlength

end TypingSession
