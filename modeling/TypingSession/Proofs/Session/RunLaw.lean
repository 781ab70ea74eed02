import TypingSession.Session.Run

/-!
# TypingSession — laws of runs

Check programs and solver programs nest in each other, so what holds of every
run is proved by an induction over both at once. A *run law* gives that
induction its cases: a property of executions, one for each kind of program,
that actions have, that doing nothing has, that continuing preserves, and that
each kind of bracket preserves. Every run then has the property
(`RunLaw.checkProgram`, `RunLaw.solverProgram`).
-/

namespace TypingSession

/-! ## How an execution ends -/

/-- The state that a run leaves behind, whether it has finished or failed. -/
def Outcome.final? {σ : Type} : Outcome σ → Option σ
  | finished s => some s
  | failed _ s => some s
  | exhausted => none

/-- The outcome with a failure, if there is one, and the state left behind. -/
def Outcome.ended {σ : Type} : Option ErrorStack → σ → Outcome σ
  | none, s => finished s
  | some stack, s => failed stack s

@[simp] theorem Outcome.final?_exhausted {σ : Type} : (exhausted : Outcome σ).final? = none :=
  rfl

@[simp] theorem Outcome.final?_ended {σ : Type} (failure : Option ErrorStack) (s : σ) :
    (Outcome.ended failure s).final? = some s := by
  cases failure <;> rfl

theorem Outcome.final?_eq_some {σ : Type} {o : Outcome σ} {s : σ} (h : o.final? = some s) :
    ∃ failure, o = .ended failure s := by
  cases o with
  | finished t => exact ⟨none, by rw [Option.some.inj h]; rfl⟩
  | failed stack t => exact ⟨some stack, by rw [Option.some.inj h]; rfl⟩
  | exhausted => exact absurd h (by simp)

theorem Outcome.ended_inj {σ : Type} {f g : Option ErrorStack} {s t : σ}
    (h : Outcome.ended f s = .ended g t) : f = g ∧ s = t := by
  cases f <;> cases g <;> simp_all [Outcome.ended]

/-- The stage of the event that tells a result. -/
def Stage.telling : Except ErrorStack Reply → Stage
  | .ok reply => finished reply
  | .error stack => failed stack

/-- The failure that a result is, if it is one. -/
def failure? : Except ErrorStack Reply → Option ErrorStack
  | .ok _ => none
  | .error stack => some stack

namespace Execution

variable {σ : Type} [Observable σ]

theorem single_eq (subject : Subject) (result : Except ErrorStack Reply) (final : σ) :
    single subject result final =
      ⟨[⟨subject, .telling result, Observable.moment final⟩], .ended (failure? result) final⟩ := by
  cases result <;> rfl

omit [Observable σ] in
/-- An execution that is continued has not finished, or the rest follows. -/
theorem andThen_cases (e : Execution σ) (next : σ → Execution σ) :
    ((∀ t, e.outcome ≠ .finished t) ∧ e.andThen next = e) ∨
    ∃ t, e.outcome = .finished t ∧
      e.andThen next = ⟨e.trace ++ (next t).trace, (next t).outcome⟩ := by
  cases h : e.outcome with
  | finished t => exact Or.inr ⟨t, rfl, by simp only [andThen, h]⟩
  | failed stack t => exact Or.inl ⟨fun _ => by simp, by simp only [andThen, h]⟩
  | exhausted => exact Or.inl ⟨fun _ => by simp, by simp only [andThen, h]⟩

omit [Observable σ] in
theorem andThen_of_finished {e : Execution σ} {t : σ} (h : e.outcome = .finished t)
    (next : σ → Execution σ) :
    e.andThen next = ⟨e.trace ++ (next t).trace, (next t).outcome⟩ := by
  simp only [andThen, h]

omit [Observable σ] in
theorem andThen_of_not_finished {e : Execution σ} (h : ∀ t, e.outcome ≠ .finished t)
    (next : σ → Execution σ) : e.andThen next = e := by
  rcases e.andThen_cases next with ⟨-, heq⟩ | ⟨t, ht, -⟩
  · exact heq
  · exact absurd ht (h t)

omit [Observable σ] in
theorem exists_of_andThen_finished {e : Execution σ} {next : σ → Execution σ} {t : σ}
    (h : (e.andThen next).outcome = .finished t) :
    ∃ m, e.outcome = .finished m ∧ (next m).outcome = .finished t := by
  rcases e.andThen_cases next with ⟨hopen, heq⟩ | ⟨m, hm, heq⟩
  · rw [heq] at h
    exact absurd h (hopen t)
  · rw [heq] at h
    exact ⟨m, hm, h⟩

theorem of_single_ended {subject : Subject} {result : Except ErrorStack Reply} {s t : σ}
    (failure : Option ErrorStack) (h : (single subject result s).outcome = .ended failure t) :
    failure? result = failure ∧ s = t := by
  rw [single_eq] at h
  exact Outcome.ended_inj h

end Execution

namespace Bracket

variable {σ τ : Type} [Observable σ] [Observable τ]

/-- The event of a bracket that enters its body. -/
def opening (b : Bracket σ τ) (s : σ) : Event :=
  ⟨b.subject, .entered, Observable.moment (b.enter s)⟩

/-- The event of a bracket whose body has ended. -/
def closing (b : Bracket σ τ) (s : σ) (failure : Option ErrorStack) (t : τ) : Event :=
  ⟨b.subject, .telling (b.leave s failure t).1, Observable.moment (b.leave s failure t).2⟩

/-- A bracket runs out of unknowns inside its body, or it closes. -/
theorem around_cases (b : Bracket σ τ) (body : τ → Execution τ) (s : σ) :
    ((body (b.enter s)).outcome = .exhausted ∧
      b.around body s = ⟨b.opening s :: (body (b.enter s)).trace, .exhausted⟩) ∨
    ∃ failure t, (body (b.enter s)).outcome = .ended failure t ∧
      b.around body s =
        ⟨b.opening s :: ((body (b.enter s)).trace ++ [b.closing s failure t]),
          .ended (failure? (b.leave s failure t).1) (b.leave s failure t).2⟩ := by
  cases h : (body (b.enter s)).outcome with
  | finished t =>
    refine Or.inr ⟨none, t, rfl, ?_⟩
    simp only [around, h, close, Execution.single_eq, Execution.after]
    rfl
  | failed stack t =>
    refine Or.inr ⟨some stack, t, rfl, ?_⟩
    simp only [around, h, close, Execution.single_eq, Execution.after]
    rfl
  | exhausted =>
    -- there is no closing event
    refine Or.inl ⟨rfl, ?_⟩
    simp only [around, h, close, Execution.exhausted, Execution.after, List.append_nil]
    rfl

/-- A bracket that finishes or fails has closed, with what its end makes of the body. -/
theorem exists_of_around_ended {b : Bracket σ τ} {body : τ → Execution τ} {s t : σ}
    (failure : Option ErrorStack) (h : (b.around body s).outcome = .ended failure t) :
    ∃ inner m, (body (b.enter s)).outcome = .ended inner m ∧
      failure? (b.leave s inner m).1 = failure ∧ (b.leave s inner m).2 = t := by
  rcases b.around_cases body s with ⟨-, heq⟩ | ⟨inner, m, hm, heq⟩
  · rw [heq] at h
    cases failure <;> exact absurd h (by simp [Outcome.ended])
  · rw [heq] at h
    obtain ⟨hfailure, hfinal⟩ := Outcome.ended_inj h
    exact ⟨inner, m, hm, hfailure, hfinal⟩

section Around

variable {b : Bracket σ τ} {body : τ → Execution τ} {s : σ}

theorem around_of_leave (failure : Option ErrorStack) {t : τ} {s' : σ}
    {result : Except ErrorStack Reply} (h : (body (b.enter s)).outcome = .ended failure t)
    (hleave : b.leave s failure t = (result, s')) :
    b.around body s =
      ⟨b.opening s :: ((body (b.enter s)).trace ++
        [⟨b.subject, .telling result, Observable.moment s'⟩]), .ended (failure? result) s'⟩ := by
  rcases b.around_cases body s with ⟨hexhausted, -⟩ | ⟨failure', t', hended, heq⟩
  · rw [h] at hexhausted
    cases failure <;> exact absurd hexhausted (by simp [Outcome.ended])
  · obtain ⟨rfl, rfl⟩ := Outcome.ended_inj (h.symm.trans hended)
    rw [heq, closing, hleave]

theorem around_of_exhausted (h : (body (b.enter s)).outcome = .exhausted) :
    b.around body s = ⟨b.opening s :: (body (b.enter s)).trace, .exhausted⟩ := by
  rcases b.around_cases body s with ⟨-, heq⟩ | ⟨failure, t, hended, -⟩
  · exact heq
  · rw [h] at hended
    cases failure <;> exact absurd hended (by simp [Outcome.ended])

end Around

/-- A bracket passes on the failures of its body, amended or not. -/
def Passes (b : Bracket σ τ) : Prop :=
  ∀ s stack t, ∃ stack', (b.leave s (some stack) t).1 = .error stack'

/-- A bracket that passes failures on can only finish if its body has. -/
theorem Passes.exists_of_finished {b : Bracket σ τ} (hb : b.Passes)
    {body : τ → Execution τ} {s t : σ} (h : (b.around body s).outcome = .finished t) :
    ∃ m, (body (b.enter s)).outcome = .finished m ∧ (b.leave s none m).2 = t := by
  obtain ⟨inner, m, hm, hfailure, hfinal⟩ := exists_of_around_ended none h
  cases inner with
  | none => exact ⟨m, hm, hfinal⟩
  | some stack =>
    obtain ⟨stack', hstack⟩ := hb s stack m
    rw [hstack] at hfailure
    exact absurd hfailure (by simp [failure?])

end Bracket

/-! ## Brackets that pass failures on -/

theorem Wrapper.bracket_passes (w : Wrapper) (hw : w ≠ .attempt) : w.bracket.Passes := by
  intro s stack t
  cases w with
  | attempt => exact absurd rfl hw
  | context frame => exact ⟨_, rfl⟩
  | rethrow changes => exact ⟨_, rfl⟩
  | scope added => exact ⟨_, rfl⟩

theorem Bridge.bracket_passes (level : Level) (b : Bridge) : (b.bracket level).Passes := by
  intro s stack t
  cases b <;> exact ⟨_, rfl⟩

theorem Solving.checkStep_passes (level : Level) : (Solving.checkStep level).Passes :=
  fun _ stack _ => ⟨stack, rfl⟩

/-! ## Programs of one command -/

theorem CheckProgram.run_step_done (command : CheckCommand) (s : Session) :
    (step command done).run s = command.run s := by
  have hdone : CheckProgram.done.run = Execution.idle := rfl
  rw [run, hdone, Execution.andThen_idle]

theorem SolverProgram.run_step_done {level : Level} (command : SolverCommand level)
    (s : Solving level) : (step command done).run s = command.run s := by
  have hdone : (SolverProgram.done : SolverProgram level).run = Execution.idle := rfl
  rw [run, hdone, Execution.andThen_idle]

/-! ## Laws -/

/-- A property of executions from a state, for check programs (`C`) and for
solver programs (`S`), that all ways of building a program preserve. -/
structure RunLaw (C : Session → Execution Session → Prop)
    (S : (level : Level) → Solving level → Execution (Solving level) → Prop) : Prop where
  /-- Doing nothing, in a session. -/
  idle (s : Session) : C s (.idle s)
  /-- One execution after another, in a session. -/
  andThen {s : Session} {e : Execution Session} {next : Session → Execution Session}
    (first : C s e) (second : ∀ t, e.outcome = .finished t → C t (next t)) :
    C s (e.andThen next)
  /-- An action of a check program. -/
  action (a : CheckAction) (s : Session) : C s (a.run s)
  /-- A body in a wrapper. -/
  wrapper (w : Wrapper) (body : CheckProgram) (s : Session)
    (inside : ∀ t, C t (body.run t)) : C s (w.bracket.around body.run s)
  /-- A solver. -/
  bridge {level : Level} (b : Bridge) (body : SolverProgram level) (s : Session)
    (inside : ∀ t, S level t (body.run t)) : C s ((b.bracket level).around body.run s)
  /-- Doing nothing, in a solver. -/
  solverIdle {level : Level} (s : Solving level) : S level s (.idle s)
  /-- One execution after another, in a solver. -/
  solverAndThen {level : Level} {s : Solving level} {e : Execution (Solving level)}
    {next : Solving level → Execution (Solving level)}
    (first : S level s e) (second : ∀ t, e.outcome = .finished t → S level t (next t)) :
    S level s (e.andThen next)
  /-- An action of a solver program. -/
  solverAction {level : Level} (a : SolverAction level) (s : Solving level) :
    S level s (a.run s)
  /-- A body of solver commands whose failure is caught. -/
  attempt {level : Level} (body : SolverProgram level) (s : Solving level)
    (inside : ∀ t, S level t (body.run t)) :
    S level s ((Solving.attempt level).around body.run s)
  /-- A check program as a step of a solver. -/
  checkStep {level : Level} (body : CheckProgram) (s : Solving level)
    (inside : ∀ t, C t (body.run t)) :
    S level s ((Solving.checkStep level).around body.run s)

namespace RunLaw

variable {C : Session → Execution Session → Prop}
  {S : (level : Level) → Solving level → Execution (Solving level) → Prop}

mutual

/-- Every run obeys the law: one case for each constructor of the four kinds of
program and command. -/
theorem checkProgram (law : RunLaw C S) : (p : CheckProgram) → (s : Session) → C s (p.run s)
  | .done, s => law.idle s
  | .step command rest, s =>
    law.andThen (law.checkCommand command s) fun t _ => law.checkProgram rest t

theorem checkCommand (law : RunLaw C S) : (c : CheckCommand) → (s : Session) → C s (c.run s)
  | .act a, s => law.action a s
  | .wrap w body, s => law.wrapper w body s (law.checkProgram body)
  | .unify _ b body, s => law.bridge b body s (law.solverProgram body)

theorem solverProgram (law : RunLaw C S) :
    {level : Level} → (p : SolverProgram level) → (s : Solving level) → S level s (p.run s)
  | _, .done, s => law.solverIdle s
  | _, .step command rest, s =>
    law.solverAndThen (law.solverCommand command s) fun t _ => law.solverProgram rest t

theorem solverCommand (law : RunLaw C S) :
    {level : Level} → (c : SolverCommand level) → (s : Solving level) → S level s (c.run s)
  | _, .act a, s => law.solverAction a s
  | _, .attempt body, s => law.attempt body s (law.solverProgram body)
  | _, .check body, s => law.checkStep body s (law.checkProgram body)

end

end RunLaw

end TypingSession
