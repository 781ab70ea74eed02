import TypingSession.Proofs.Session.RunLaw
import TypingSession.Proofs.Unification.Solve

/-!
# TypingSession — the states that a solver reaches

A solver in a session takes one step after another: an action, or a check program
that it runs. A step may finish, or fail and have its failure caught. `Reaches`
collects such steps, with the equations that were recorded in them, in order.
Every run of a solver program is such a sequence (`Reaches.of_run`), and so is
every part of one.

Only a recorded equation changes what a solver has solved (`Step.cases`), so the
two invariants of solving one equation hold in all states that are reached:

* `Reaches.solvedForm` — the substitution is in solved form.
* `Reaches.mostGeneral` — it is a most general solution of what was recorded.
-/

namespace TypingSession

variable {level : Level}

/-- The equation that an action records when it finishes, if it is one that does. -/
def SolverAction.equations : SolverAction level → List (Nat × level.Term)
  | solve u t => [(u, t)]
  | freshUnknown | fresh | apply _ | substitution | fail _ => []

namespace Solving

/-- One step of a solver, with the equations that it records. A failure is caught. -/
inductive Step : Solving level → List (Nat × level.Term) → Solving level → Prop where
  /-- An action that finishes. -/
  | finished {s t : Solving level} (a : SolverAction level)
    (h : (a.run s).outcome = .finished t) : Step s a.equations t
  /-- An action that fails. -/
  | failed {s t : Solving level} (a : SolverAction level) {stack : ErrorStack}
    (h : (a.run s).outcome = .failed stack t) : Step s [] t
  /-- A check program that finishes or fails. -/
  | check {s t : Solving level} (body : CheckProgram)
    (h : ((SolverCommand.check body).run s).outcome.final? = some t) : Step s [] t

/-- A sequence of steps, with the equations that were recorded in it. -/
inductive Reaches (s : Solving level) : List (Nat × level.Term) → Solving level → Prop where
  | refl : Reaches s [] s
  | step {before new : List (Nat × level.Term)} {t t' : Solving level} :
    Reaches s before t → Step t new t' → Reaches s (before ++ new) t'

theorem Reaches.trans {s t t' : Solving level} {es fs : List (Nat × level.Term)}
    (h : Reaches s es t) (h' : Reaches t fs t') : Reaches s (es ++ fs) t' := by
  induction h' with
  | refl =>
    rw [List.append_nil]
    exact h
  | step _ hstep ih =>
    rw [← List.append_assoc]
    exact ih.step hstep

theorem Step.reaches {s t : Solving level} {es : List (Nat × level.Term)} (h : Step s es t) :
    Reaches s es t :=
  Reaches.refl.step h

theorem Step.of_action {a : SolverAction level} {s t : Solving level}
    (h : (a.run s).outcome.final? = some t) : ∃ es, Step s es t := by
  obtain ⟨failure, hended⟩ := Outcome.final?_eq_some h
  cases failure with
  | none => exact ⟨_, .finished a hended⟩
  | some stack => exact ⟨_, .failed a hended⟩

/-- The law that a solver program only takes steps. -/
theorem reaches_law : RunLaw (fun _ _ => True)
    fun _ s e => ∀ t, e.outcome.final? = some t → ∃ es, Reaches s es t where
  idle _ := trivial
  andThen _ _ := trivial
  action _ _ := trivial
  wrapper _ _ _ _ := trivial
  bridge _ _ _ _ := trivial
  solverIdle s t h := by
    obtain rfl : s = t := Option.some.inj h
    exact ⟨[], .refl⟩
  solverAndThen {level s e next} first second t h := by
    rcases e.andThen_cases next with ⟨-, heq⟩ | ⟨m, hm, heq⟩
    · rw [heq] at h
      exact first t h
    · rw [heq] at h
      obtain ⟨es, hes⟩ := first m (by rw [hm]; rfl)
      obtain ⟨fs, hfs⟩ := second m hm t h
      exact ⟨es ++ fs, hes.trans hfs⟩
  solverAction a s t h := by
    obtain ⟨es, hstep⟩ := Step.of_action h
    exact ⟨es, hstep.reaches⟩
  attempt {level} body s inside t h := by
    rcases (Solving.attempt level).around_cases body.run s with ⟨-, heq⟩ | ⟨f, m, hm, heq⟩
    · rw [heq] at h
      exact absurd h (by simp)
    · -- catching a failure changes nothing, so the body has ended where the whole has
      rw [heq, Outcome.final?_ended] at h
      obtain rfl : m = t := Option.some.inj h
      exact inside s m (by rw [show body.run s = body.run ((Solving.attempt level).enter s) from rfl,
        hm, Outcome.final?_ended])
  checkStep body s _ t h := ⟨[], (Step.check body h).reaches⟩

/-- Wherever a solver program ends, its solver has got there by steps. -/
theorem Reaches.of_run {p : SolverProgram level} {s t : Solving level}
    (h : (p.run s).outcome.final? = some t) : ∃ es, Reaches s es t :=
  reaches_law.solverProgram p s t h

/-! ## What a step does to the substitution -/

/-- A call to solve an equation finishes when the solver records it, and fails where
it was called when the solver refuses it. -/
theorem run_solve (s : Solving level) (u : Nat) (t : level.Term) :
    ((SolverAction.solve u t).run s).outcome =
      match s.solver.solve u t with
      | .ok solver => .finished { s with solver }
      | .error e => .failed e.stack s := by
  unfold SolverAction.run
  cases hs : s.solver.solve u t <;> simp only [hs, Execution.single]

theorem run_solve_finished {s s' : Solving level} {u : Nat} {t : level.Term}
    (h : ((SolverAction.solve u t).run s).outcome = .finished s') :
    s.solver.solve u t = .ok s'.solver := by
  rw [run_solve] at h
  cases hs : s.solver.solve u t with
  | ok solver =>
    rw [hs] at h
    obtain rfl := Outcome.finished.inj h
    rfl
  | error e =>
    rw [hs] at h
    exact absurd h (by simp)

/-- An equation that is refused leaves the solver and the session alone. -/
theorem run_solve_failed {s s' : Solving level} {u : Nat} {t : level.Term} {stack : ErrorStack}
    (h : ((SolverAction.solve u t).run s).outcome = .failed stack s') : s' = s := by
  rw [run_solve] at h
  cases hs : s.solver.solve u t with
  | ok solver =>
    rw [hs] at h
    exact absurd h (by simp)
  | error e =>
    rw [hs] at h
    exact (Outcome.failed.inj h).2.symm

theorem Step.of_solve_ok {s : Solving level} {u : Nat} {t : level.Term}
    {solver : Solver level.Term} (h : s.solver.solve u t = .ok solver) :
    Step s [(u, t)] { s with solver } :=
  Step.finished (.solve u t) (by rw [run_solve, h])

theorem Step.of_solve_error {s : Solving level} {u : Nat} {t : level.Term}
    {e : SolveError level.Term} (h : s.solver.solve u t = .error e) : Step s [] s :=
  Step.failed (.solve u t) (by rw [run_solve, h])

/-- An action other than solving leaves what was solved alone. -/
theorem run_substitution {a : SolverAction level} {s t : Solving level}
    (ha : a.equations = []) (h : (a.run s).outcome.final? = some t) :
    t.solver.substitution = s.solver.substitution := by
  cases a with
  | solve u x => exact absurd ha (by simp [SolverAction.equations])
  | freshUnknown | fresh =>
    unfold SolverAction.run Solver.fresh? at h
    by_cases hlimit : s.solver.nextUnknown < unknownLimit
    · simp only [if_pos hlimit, Execution.single] at h
      rw [← Option.some.inj h]
    · simp only [if_neg hlimit, Execution.exhausted] at h
      exact absurd h (by simp)
  | apply x | substitution | fail stack =>
    rw [← Option.some.inj h]

/-- Everything that a step does to the substitution: nothing, or it records an
equation. -/
theorem Step.cases {s t : Solving level} {es : List (Nat × level.Term)} (h : Step s es t) :
    (es = [] ∧ t.solver.substitution = s.solver.substitution) ∨
    ∃ u x, es = [(u, x)] ∧ s.solver.solve u x = .ok t.solver := by
  cases h with
  | finished a h =>
    by_cases ha : a.equations = []
    · exact Or.inl ⟨ha, run_substitution ha (by rw [h]; rfl)⟩
    · cases a with
      | solve u x => exact Or.inr ⟨u, x, rfl, run_solve_finished h⟩
      | _ => exact absurd rfl ha
  | failed a h =>
    refine Or.inl ⟨rfl, ?_⟩
    cases a with
    | solve u x => rw [run_solve_failed h]
    | _ => exact run_substitution rfl (by rw [h]; rfl)
  | check body h =>
    refine Or.inl ⟨rfl, ?_⟩
    rcases (Solving.checkStep level).around_cases body.run s with ⟨-, heq⟩ | ⟨f, m, -, heq⟩
    · rw [SolverCommand.run, heq] at h
      exact absurd h (by simp)
    · rw [SolverCommand.run, heq, Outcome.final?_ended] at h
      rw [← Option.some.inj h]
      rfl

/-! ## What every sequence of steps keeps -/

namespace Reaches

variable {s t : Solving level} {es fs : List (Nat × level.Term)}

theorem solvedForm (h : Reaches s es t) (hs : s.solver.substitution.SolvedForm) :
    t.solver.substitution.SolvedForm := by
  induction h with
  | refl => exact hs
  | step _ hstep ih =>
    rcases hstep.cases with ⟨-, hsame⟩ | ⟨u, x, -, hsolve⟩
    · rw [hsame]
      exact ih
    · exact ih.of_solve hsolve

/-- What is solved stays a most general solution of everything recorded. -/
theorem mostGeneral (h : Reaches s es t) (hs : s.solver.substitution.MostGeneral fs) :
    t.solver.substitution.MostGeneral (fs ++ es) := by
  induction h with
  | refl =>
    rw [List.append_nil]
    exact hs
  | step _ hstep ih =>
    rcases hstep.cases with ⟨rfl, hsame⟩ | ⟨u, x, rfl, hsolve⟩
    · rw [List.append_nil, hsame]
      exact ih
    · rw [← List.append_assoc]
      exact ih.of_solve hsolve

theorem get?_eq_none (h : Reaches s es t) (hs : s.solver.substitution.SolvedForm) {u : Nat}
    (hu : t.solver.substitution.get? u = none) : s.solver.substitution.get? u = none := by
  induction h with
  | refl => exact hu
  | step hbefore hstep ih =>
    rcases hstep.cases with ⟨-, hsame⟩ | ⟨v, x, -, hsolve⟩
    · rw [hsame] at hu
      exact ih hu
    · rcases (hbefore.solvedForm hs).bound_of_solve hsolve with hsame | ⟨-, w, -, hbound⟩
      · rw [hsame] at hu
        exact ih hu
      · -- one more unknown is bound, and the others are as they were
        exact ih ((hbound u).mp hu).2

/-- A later substitution solves what was recorded before, so it absorbs the earlier
one. -/
theorem refines (h : Reaches s es t) (hs : s.solver.substitution.MostGeneral fs)
    (x : level.Term) :
    t.solver.substitution.apply (s.solver.substitution.apply x) =
      t.solver.substitution.apply x := by
  have hsolves := (h.mostGeneral hs).solves
  exact hs.absorbed _ (Substitution.solves_append.mp hsolves).1 x

end Reaches

/-- **Most general solutions.** Let a solver have started with nothing solved and
recorded some equations; others may have been refused. Its substitution solves the
equations that it has recorded, and every solution of them absorbs it. The next
equation fails the occurs check only if nothing solves it together with those; it is
refused as solved exactly when its unknown stands for no unknown; and if it is
refused, the solver and the session stay as they are. -/
theorem mostGeneral_of_reaches (session : Session) (n : Nat) {es : List (Nat × level.Term)}
    {s : Solving level} (h : Reaches ⟨session, .start n⟩ es s) :
    let current := s.solver.substitution
    (∀ e ∈ es, current.apply (ofUnknown e.1) = current.apply e.2) ∧
    (∀ r : Substitution level.Term, (∀ e ∈ es, r.apply (ofUnknown e.1) = r.apply e.2) →
      ∀ x, r.apply (current.apply x) = r.apply x) ∧
    (∀ u t v x, s.solver.solve u t = .error (.occurs v x) →
      ¬ ∃ r : Substitution level.Term, ∀ e ∈ es ++ [(u, t)],
        r.apply (ofUnknown e.1) = r.apply e.2) ∧
    (∀ u t, (∃ v x, s.solver.solve u t = .error (.alreadySolved v x)) ↔
      ∀ v, current.apply (ofUnknown u) ≠ ofUnknown v) ∧
    (∀ u t e, s.solver.solve u t = .error e →
      ((SolverAction.solve u t).run s).outcome = .failed e.stack s) := by
  intro current
  have hgeneral : current.MostGeneral es :=
    h.mostGeneral Substitution.mostGeneral_empty
  refine ⟨hgeneral.solves, hgeneral.absorbed, ?_, fun u t => Solver.solve_alreadySolved_iff, ?_⟩
  · rintro u t v x hoccurs ⟨r, hr⟩
    exact hgeneral.not_solves_of_occurs hoccurs r hr
  · intro u t e he
    rw [run_solve, he]

/-- An unknown is solved by another and that one by a kind, and then nothing else can
be recorded for the first. -/
theorem mostGeneral_aliases :
    ∃ s : Solving .kind, Reaches ⟨.start ∅ ∅, .start 2⟩ [(0, Kind.unknown 1), (1, Kind.star)] s ∧
      s.solver.substitution.apply (Kind.unknown 0) = Kind.star ∧
      ∀ r : Substitution Kind, r.Solves [(0, Kind.unknown 1), (1, Kind.star)] →
        r.apply (Kind.unknown 0) = Kind.star := by
  let followed : Substitution Kind := .compose ∅ (.single 0 (.unknown 1))
  let both : Substitution Kind := followed.compose (.single 1 .star)
  let s : Solving .kind := ⟨.start ∅ ∅, ⟨2, both⟩⟩
  have first : Step (⟨.start ∅ ∅, .start 2⟩ : Solving .kind) [(0, Kind.unknown 1)]
      ⟨.start ∅ ∅, ⟨2, followed⟩⟩ := Step.of_solve_ok rfl
  have second : Step (⟨.start ∅ ∅, ⟨2, followed⟩⟩ : Solving .kind) [(1, Kind.star)] s :=
    Step.of_solve_ok rfl
  have third : Step s [] s := Step.of_solve_error (u := 0) (t := Kind.star) rfl
  have h : Reaches ⟨.start ∅ ∅, .start 2⟩ [(0, Kind.unknown 1), (1, Kind.star)] s :=
    ((Reaches.refl.step first).step second).step third
  obtain ⟨-, habsorbed, -, -, -⟩ := mostGeneral_of_reaches (.start ∅ ∅) 2 h
  have hstar : both.apply (Kind.unknown 0) = Kind.star := by decide
  refine ⟨s, h, hstar, ?_⟩
  intro r hr
  calc r.apply (Kind.unknown 0) = r.apply (both.apply (Kind.unknown 0)) :=
        (habsorbed r hr (Kind.unknown 0)).symm
    _ = r.apply Kind.star := by rw [hstar]
    _ = Kind.star := rfl

/-- **Solved form.** Let a solver have started with nothing solved and got to a state
by any steps. No unknown that it has bound occurs in a term that it has bound; so its
substitution is idempotent, and what comes out of it holds no bound unknown. Recording
an equation changes nothing or binds one more unknown. Whatever happens later, what is
bound stays bound, and applying the substitution first makes no difference. -/
theorem solvedForm_of_reaches (session : Session) (n : Nat) {es : List (Nat × level.Term)}
    {s : Solving level} (h : Reaches ⟨session, .start n⟩ es s) :
    let current := s.solver.substitution
    current.SolvedForm ∧
    (∀ x, current.apply (current.apply x) = current.apply x) ∧
    (∀ x, ∀ u ∈ unknowns (current.apply x), current.get? u = none) ∧
    (∀ u x t, ((SolverAction.solve u x).run s).outcome = .finished t →
      t.solver.substitution = current ∨
        t.solver.substitution.size = current.size + 1 ∧
          ∃ v, current.get? v = none ∧
            ∀ w, t.solver.substitution.get? w = none ↔ w ≠ v ∧ current.get? w = none) ∧
    (∀ fs t, Reaches s fs t →
      (∀ u, current.get? u ≠ none → t.solver.substitution.get? u ≠ none) ∧
      ∀ x, t.solver.substitution.apply (current.apply x) = t.solver.substitution.apply x) := by
  intro current
  have hsolved : current.SolvedForm := h.solvedForm Substitution.solvedForm_empty
  have hgeneral : current.MostGeneral es := h.mostGeneral Substitution.mostGeneral_empty
  refine ⟨hsolved, hsolved.apply_apply, fun x u hu => hsolved.get?_eq_none_of_mem hu, ?_, ?_⟩
  · intro u x t hrun
    exact hsolved.bound_of_solve (run_solve_finished hrun)
  · intro fs t hlater
    refine ⟨?_, hlater.refines hgeneral⟩
    intro u hbound hnone
    exact hbound (hlater.get?_eq_none hsolved hnone)

/-- An unknown is solved by a type that holds another, which is solved then. -/
theorem solvedForm_nested :
    let array := (Ty.prim "Array").app (.unknown 0)
    ∃ s : Solving .type, Reaches ⟨.start ∅ ∅, .start 2⟩ [(1, array), (0, Ty.var "a")] s ∧
      s.solver.substitution.SolvedForm ∧ s.solver.substitution.size = 2 := by
  intro array
  let outer : Substitution Ty := .compose ∅ (.single 1 array)
  let both : Substitution Ty := outer.compose (.single 0 (.var "a"))
  let middle : Solving .type := ⟨.start ∅ ∅, ⟨2, outer⟩⟩
  have first : Step (⟨.start ∅ ∅, .start 2⟩ : Solving .type) [(1, array)] middle :=
    Step.of_solve_ok rfl
  have second : Step middle [(0, Ty.var "a")] ⟨.start ∅ ∅, ⟨2, both⟩⟩ := Step.of_solve_ok rfl
  have h := (Reaches.refl.step first).step second
  obtain ⟨hsolved, -, -, -, -⟩ := solvedForm_of_reaches (.start ∅ ∅) 2 h
  exact ⟨_, h, hsolved, rfl⟩

end Solving

end TypingSession
