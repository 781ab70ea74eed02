import TypingSession.Proofs.Session.RunLaw
import TypingSession.Proofs.Unification.Solve

/-!
# TypingSession — the counter of unknowns

The counter of unknowns is kept in a session and in each solver at work in it. At
any moment the one that counts is the innermost: `Moment.counter`. While a solver
is at work, the counter of its session is lent out (`Moment.lent`).

This module proves what holds of the counter in every run (`Execution.rises_law`):

* a run never lowers the counter that it works with, whether it finishes or fails;
* a run of a solver leaves the counter of its session as it was;
* without standalone solvers, the counter is never, at no event of a run and at
  no depth, below where it was at the start.
-/

namespace TypingSession

open Observable (moment)

/-- The next unknown that would be handed out. -/
def Moment.counter : Moment → Nat
  | checking state => state.nextUnknown
  | solving _ solver _ => solver.nextUnknown

/-- The counter of the session while a solver is at work in it. -/
def Moment.lent : Moment → Option Nat
  | checking _ => none
  | solving _ _ state => some state.nextUnknown

/-- Whether a command starts a solver from a counter of its own. -/
def Subject.isStandalone : Subject → Bool
  | bridge _ (.standalone _) => true
  | bridge _ .lift => false
  | action _ | wrapper _ | solverAction _ _ | solverAttempt _ | checkStep _ => false

/-- Every solver that a trace tells of starts from the counter of its session. -/
def Trace.LiftOnly (t : Trace) : Prop := ∀ ev ∈ t, ev.subject.isStandalone = false

theorem Trace.liftOnly_append {t t' : Trace} :
    Trace.LiftOnly (t ++ t') ↔ t.LiftOnly ∧ t'.LiftOnly := by
  simp only [LiftOnly, List.mem_append, or_imp, forall_and]

/-! ## What actions do to the counter -/

theorem CheckAction.perform_nextUnknown (a : CheckAction) (s : Session) :
    (a.perform s).2.state.nextUnknown = s.state.nextUnknown := by
  cases a with
  | putEnvironment source => cases source <;> rfl
  | _ => rfl

theorem exists_of_map_mapError {ε ε' β γ : Type} {r : Except ε β} {f : β → γ}
    {g : ε → ε'} {c : γ} (h : (r.map f).mapError g = .ok c) : ∃ b, f b = c := by
  cases r with
  | ok b => exact ⟨b, Except.ok.inj h⟩
  | error e =>
    have hfailed : Except.error (g e) = Except.ok c := h
    exact absurd hfailed (by simp)

theorem CheckAction.perform_minted {a : CheckAction} {s : Session} {reply : Reply}
    (h : (a.perform s).1 = .ok reply) : reply.minted? = none := by
  cases a with
  | typeOf current name | kindOf current name =>
    obtain ⟨found, rfl⟩ := exists_of_map_mapError h
    rfl
  | guard stack condition =>
    cases condition
    · exact absurd h (by simp [perform])
    · obtain rfl := Except.ok.inj h
      rfl
  | putEnvironment source =>
    cases source <;>
    · obtain rfl := Except.ok.inj h
      rfl
  | fail stack => exact absurd h (by simp [perform])
  | _ =>
    obtain rfl := Except.ok.inj h
    rfl

theorem Solver.fresh?_eq_none_iff {α : Type} {s : Solver α} :
    s.fresh? = none ↔ unknownLimit ≤ s.nextUnknown := by
  unfold fresh?
  by_cases hlimit : s.nextUnknown < unknownLimit
  · rw [if_pos hlimit]
    simp only [reduceCtorEq, false_iff]
    omega
  · rw [if_neg hlimit]
    simp only [true_iff]
    omega

/-- An action of a solver finds no unknown left, hands out the next one, or leaves
the counter alone. -/
theorem SolverAction.run_cases {level : Level} (a : SolverAction level) (s : Solving level) :
    (a.run s = .exhausted ∧ unknownLimit ≤ s.solver.nextUnknown) ∨
    (s.solver.nextUnknown < unknownLimit ∧
      ∃ reply, reply.minted? = some s.solver.nextUnknown ∧
        a.run s = .single (.solverAction level a) (.ok reply)
          ⟨s.session, ⟨s.solver.nextUnknown + 1, s.solver.substitution⟩⟩) ∨
    ∃ result t, a.run s = .single (.solverAction level a) result t ∧
      (∀ reply, result = .ok reply → reply.minted? = none) ∧
      t.session = s.session ∧ t.solver.nextUnknown = s.solver.nextUnknown := by
  cases a with
  | freshUnknown | fresh =>
    by_cases hlimit : s.solver.nextUnknown < unknownLimit
    · refine Or.inr (Or.inl ⟨hlimit, ?_⟩)
      simp only [run, Solver.fresh?, if_pos hlimit]
      exact ⟨_, rfl, rfl⟩
    · refine Or.inl ⟨?_, Nat.le_of_not_lt hlimit⟩
      simp only [run, Solver.fresh?, if_neg hlimit]
  | solve u x =>
    refine Or.inr (Or.inr ?_)
    cases hs : s.solver.solve u x with
    | ok solver =>
      refine ⟨.ok (.substitution level solver.substitution), ⟨s.session, solver⟩, ?_, ?_, rfl,
        Solver.solve_nextUnknown hs⟩
      · simp only [run, hs]
      · rintro reply ⟨⟩
        rfl
    | error e =>
      refine ⟨.error e.stack, s, ?_, fun _ h => absurd h (by simp), rfl, rfl⟩
      simp only [run, hs]
  | apply x =>
    refine Or.inr (Or.inr ⟨.ok (.term level (s.solver.substitution.apply x)), s, rfl, ?_, rfl, rfl⟩)
    rintro reply ⟨⟩
    rfl
  | substitution =>
    refine Or.inr (Or.inr ⟨.ok (.substitution level s.solver.substitution), s, rfl, ?_, rfl, rfl⟩)
    rintro reply ⟨⟩
    rfl
  | fail stack =>
    exact Or.inr (Or.inr ⟨.error stack, s, rfl, fun _ h => absurd h (by simp), rfl, rfl⟩)

theorem SolverAction.run_session {level : Level} (a : SolverAction level) {s t : Solving level}
    (h : (a.run s).outcome.final? = some t) : t.session = s.session := by
  rcases a.run_cases s with ⟨heq, -⟩ | ⟨-, reply, -, heq⟩ | ⟨result, m, heq, -, hsession, -⟩
  · rw [heq] at h
    exact absurd h (by simp [Execution.exhausted])
  · rw [heq] at h
    rw [← Option.some.inj h]
  · rw [heq, Execution.single_eq, Outcome.final?_ended] at h
    rw [← Option.some.inj h, hsession]

/-- What a session has lent to a solver is the counter that it had in front of it. -/
theorem Bridge.counter_of_lent {level : Level} (b : Bridge) {s : Session} {t : Solving level}
    (h : (moment t).lent = (moment ((b.bracket level).enter s)).lent) :
    t.session.state.nextUnknown = s.state.nextUnknown := by
  cases b <;> exact Option.some.inj h

/-! ## The counter never falls -/

namespace Execution

variable {σ τ : Type} [Observable σ] [Observable τ]

/-- What holds of the counter in an execution from a state: it is not lower at the end
than at the start, what was lent out is the same at the end, and without standalone
solvers no event is below the start. -/
structure Rises (s : σ) (e : Execution σ) : Prop where
  counter_le : ∀ t, e.outcome.final? = some t → (moment s).counter ≤ (moment t).counter
  lent_eq : ∀ t, e.outcome.final? = some t → (moment t).lent = (moment s).lent
  floor : e.trace.LiftOnly → ∀ ev ∈ e.trace, (moment s).counter ≤ ev.moment.counter

namespace Rises

theorem idle (s : σ) : (Execution.idle s).Rises s where
  counter_le t h := by
    obtain rfl : s = t := Option.some.inj h
    exact Nat.le_refl _
  lent_eq t h := by
    obtain rfl : s = t := Option.some.inj h
    rfl
  floor _ ev hev := absurd hev List.not_mem_nil

theorem andThen {s : σ} {e : Execution σ} {next : σ → Execution σ} (first : e.Rises s)
    (second : ∀ t, e.outcome = .finished t → (next t).Rises t) : (e.andThen next).Rises s := by
  rcases e.andThen_cases next with ⟨-, heq⟩ | ⟨m, hm, heq⟩
  · rw [heq]
    exact first
  · have hmid : e.outcome.final? = some m := by rw [hm]; rfl
    have hle := first.counter_le m hmid
    rw [heq]
    refine ⟨?_, ?_, ?_⟩
    · -- the counter rises up to the middle, and from there on
      intro t ht
      exact Nat.le_trans hle ((second m hm).counter_le t ht)
    · intro t ht
      exact ((second m hm).lent_eq t ht).trans (first.lent_eq m hmid)
    · -- the floor of the second part is above the middle
      intro hlift ev hev
      obtain ⟨hfirst, hsecond⟩ := Trace.liftOnly_append.mp hlift
      rcases List.mem_append.mp hev with hev | hev
      · exact first.floor hfirst ev hev
      · exact Nat.le_trans hle ((second m hm).floor hsecond ev hev)

theorem single {s t : σ} (subject : Subject) (result : Except ErrorStack Reply)
    (hcounter : (moment s).counter ≤ (moment t).counter)
    (hlent : (moment t).lent = (moment s).lent) :
    (Execution.single subject result t).Rises s := by
  rw [single_eq]
  refine ⟨?_, ?_, ?_⟩
  · intro t' ht
    rw [Outcome.final?_ended] at ht
    rwa [← Option.some.inj ht]
  · intro t' ht
    rw [Outcome.final?_ended] at ht
    rwa [← Option.some.inj ht]
  · intro _ ev hev
    rwa [List.mem_singleton.mp hev]

/-- A bracket is in order if it does not lower the counter on the way in, unless it
starts a standalone solver, nor on the way out. -/
theorem around (b : Bracket σ τ) {body : τ → Execution τ} {s : σ}
    (inside : ∀ t, (body t).Rises t)
    (henter : b.subject.isStandalone = false →
      (moment s).counter ≤ (moment (b.enter s)).counter)
    (hleave : ∀ failure t, (moment (b.enter s)).counter ≤ (moment t).counter →
      (moment t).lent = (moment (b.enter s)).lent →
      (moment s).counter ≤ (moment (b.leave s failure t).2).counter ∧
        (moment (b.leave s failure t).2).lent = (moment s).lent) :
    (b.around body s).Rises s := by
  have hbody := inside (b.enter s)
  -- the events inside are no lower than the way in
  have hinside : Trace.LiftOnly (b.opening s :: (body (b.enter s)).trace) →
      ∀ ev ∈ b.opening s :: (body (b.enter s)).trace,
        (moment s).counter ≤ ev.moment.counter := by
    intro hlift ev hev
    have hopen := henter (hlift _ List.mem_cons_self)
    rcases List.mem_cons.mp hev with rfl | hev
    · exact hopen
    · exact Nat.le_trans hopen
        (hbody.floor (fun ev' hev' => hlift ev' (List.mem_cons_of_mem _ hev')) ev hev)
  rcases b.around_cases body s with ⟨-, heq⟩ | ⟨failure, m, hm, heq⟩
  · rw [heq]
    refine ⟨fun t ht => absurd ht (by simp),
      fun t ht => absurd ht (by simp), hinside⟩
  · have hmid : (body (b.enter s)).outcome.final? = some m := by
      rw [hm, Outcome.final?_ended]
    obtain ⟨hcounter, hlent⟩ :=
      hleave failure m (hbody.counter_le m hmid) (hbody.lent_eq m hmid)
    rw [heq]
    refine ⟨?_, ?_, ?_⟩
    · intro t ht
      rw [Outcome.final?_ended] at ht
      rwa [← Option.some.inj ht]
    · intro t ht
      rw [Outcome.final?_ended] at ht
      rwa [← Option.some.inj ht]
    · intro hlift ev hev
      rw [← List.cons_append] at hlift hev
      rcases List.mem_append.mp hev with hev | hev
      · exact hinside (Trace.liftOnly_append.mp hlift).1 ev hev
      · rwa [List.mem_singleton.mp hev]

end Rises

/-- The law of the counter. -/
theorem rises_law : RunLaw (fun s e => e.Rises s) (fun _ s e => e.Rises s) where
  idle := Rises.idle
  andThen := Rises.andThen
  action a s := by
    refine Rises.single _ _ (Nat.le_of_eq ?_) rfl
    exact (a.perform_nextUnknown s).symm
  wrapper w body s inside := by
    -- no wrapper touches the counter, in or out
    refine Rises.around _ inside ?_ ?_
    · intro _
      cases w <;> exact Nat.le_refl _
    · intro failure t hcounter _
      refine ⟨?_, rfl⟩
      cases w <;> cases failure <;> exact hcounter
  bridge {level} b body s inside := by
    refine Rises.around _ inside ?_ ?_
    · intro hlift
      cases b with
      | lift => exact Nat.le_refl _
      | standalone first => exact absurd hlift (by simp [Bridge.bracket, Subject.isStandalone])
    · intro failure t hcounter hlent
      -- what the session had lent to the solver is still there
      have hback : t.session.state.nextUnknown = s.state.nextUnknown := b.counter_of_lent hlent
      refine ⟨?_, rfl⟩
      cases b <;> cases failure
      · -- only a lifted solver that succeeds moves the counter of the session
        exact hcounter
      all_goals exact Nat.le_of_eq hback.symm
  solverIdle := Rises.idle
  solverAndThen := Rises.andThen
  solverAction a s := by
    rcases a.run_cases s with ⟨heq, -⟩ | ⟨-, reply, -, heq⟩ | ⟨result, t, heq, -, hsession, hnext⟩
    · rw [heq]
      exact ⟨fun t ht => absurd ht (by simp [exhausted]),
        fun t ht => absurd ht (by simp [exhausted]),
        fun _ ev hev => absurd hev List.not_mem_nil⟩
    · -- an unknown is handed out
      rw [heq]
      exact Rises.single _ _ (Nat.le_succ _) rfl
    · rw [heq]
      refine Rises.single _ _ (Nat.le_of_eq hnext.symm) ?_
      show some t.session.state.nextUnknown = some s.session.state.nextUnknown
      rw [hsession]
  attempt body s inside := by
    refine Rises.around _ inside (fun _ => Nat.le_refl _) ?_
    intro failure t hcounter hlent
    exact ⟨hcounter, hlent⟩
  checkStep {level} body s inside := by
    -- the larger of the two counters is lent, and the larger is taken back
    refine Rises.around _ inside (fun _ => Nat.le_max_right _ _) ?_
    intro failure t hcounter _
    exact ⟨Nat.le_max_left _ _, rfl⟩

end Execution

end TypingSession
