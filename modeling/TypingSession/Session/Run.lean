import TypingSession.Session.Execution

/-!
# TypingSession — running programs

Every command is carried out in one of three ways: an action is performed on the
state; a wrapper and a bridge are brackets around the run of their body; and a
program runs its commands one after the other, up to the first failure.

The counter of unknowns is handed on in three places. A lifted solver starts at
the counter of the session and stores its own there when it succeeds. A check
program inside a solver borrows the larger of the two counters; the solver goes
on from the larger again, and the session gets its own back, whether the program
has failed or not. A standalone solver leaves the counter of the session alone.
-/

namespace TypingSession

instance : Observable Session where
  moment s := .checking s.state

/-! ## Check actions -/

namespace CheckAction

/-- The result and the effect of an action. -/
def perform (a : CheckAction) (s : Session) : Except ErrorStack Reply × Session :=
  match a with
  | addName name entry =>
    (.ok .nothing, s.modifyEnvironment fun e => { e with names := e.names.insert name entry })
  | addType name entry =>
    (.ok .nothing, s.modifyEnvironment fun e => { e with types := e.types.insert name entry })
  | addDictionary d =>
    (.ok .nothing, s.modifyEnvironment fun e => { e with dictionaries := e.dictionaries ++ [d] })
  | findName name => (.ok (.nameEntry s.state.environment.names[name]?), s)
  | findType name => (.ok (.typeEntry s.state.environment.types[name]?), s)
  | typeOf current name => (((s.state.typeOf current name).map .type).mapError (·.stack), s)
  | kindOf current name => (((s.state.kindOf current name).map .kind).mapError (·.stack), s)
  | freshDictionary =>
    (.ok (.dictionaryName s.state.nextDictionary),
      { s with state.nextDictionary := s.state.nextDictionary + 1 })
  | setModule m => (.ok .nothing, { s with state.currentModule := some m })
  | currentModule => (.ok (.currentModule s.state.currentModule), s)
  | environment => (.ok (.environment s.state.environment), s)
  | dictionaries => (.ok (.dictionaries s.state.environment.dictionaries), s)
  | saveEnvironment label =>
    (.ok .nothing, { s with shelf := s.shelf.insert label s.state.environment })
  | putEnvironment (.shelf label) =>
    (.ok .nothing, s.modifyEnvironment fun e => s.shelf[label]?.getD e)
  | putEnvironment (.given e) => (.ok .nothing, s.modifyEnvironment fun _ => e)
  | isSaved label => (.ok (.truth (s.shelf[label]? == some s.state.environment)), s)
  | fail stack => (.error stack, s)
  | guard stack condition => (if condition then .ok .nothing else .error stack, s)

/-- The execution of an action. -/
def run (a : CheckAction) (s : Session) : Execution Session :=
  let (result, final) := a.perform s
  .single (.action a) result final

end CheckAction

/-! ## Wrappers -/

namespace Wrapper

/-- A wrapper as a bracket. Only a scope changes the state, and it puts its field
back only if the body has succeeded. -/
def bracket (w : Wrapper) : Bracket Session Session where
  subject := .wrapper w
  enter s :=
    match w with
    | scope added => s.modifyEnvironment added.extend
    | attempt | context _ | rethrow _ => s
  leave before failure after :=
    match w, failure with
    | attempt, failure => (.ok (.caught failure), after)
    -- a body that has succeeded
    | scope added, none =>
      (.ok .nothing, after.modifyEnvironment (added.field.restore before.state.environment))
    | context _, none | rethrow _, none => (.ok .nothing, after)
    -- a body that has failed: its state stays as it is, scopes included
    | scope _, some stack => (.error stack, after)
    | context frame, some stack => (.error (stack.pushOuter frame), after)
    | rethrow changes, some stack => (.error (Amendment.applyAll changes stack), after)

end Wrapper

/-! ## Solvers in a session -/

/-- A solver at work in a session. -/
structure Solving (level : Level) where
  /-- The session. -/
  session : Session
  /-- The solver. -/
  solver : Solver level.Term
deriving DecidableEq

instance (level : Level) : Observable (Solving level) where
  moment s := .solving level s.solver s.session.state

namespace SolverAction

variable {level : Level}

/-- The execution of an action. -/
def run (a : SolverAction level) (s : Solving level) : Execution (Solving level) :=
  let subject := Subject.solverAction level a
  match a with
  | freshUnknown =>
    match s.solver.fresh? with
    | some (u, solver) => .single subject (.ok (.unknown u)) { s with solver }
    | none => .exhausted
  | fresh =>
    match s.solver.fresh? with
    | some (u, solver) => .single subject (.ok (.freshTerm level u)) { s with solver }
    | none => .exhausted
  | solve u t =>
    match s.solver.solve u t with
    | .ok solver =>
      .single subject (.ok (.substitution level solver.substitution)) { s with solver }
    | .error e => .single subject (.error e.stack) s
  | apply t => .single subject (.ok (.term level (s.solver.substitution.apply t))) s
  | substitution => .single subject (.ok (.substitution level s.solver.substitution)) s
  | fail stack => .single subject (.error stack) s

end SolverAction

/-- A body of solver commands whose failure is caught, as a bracket. -/
def Solving.attempt (level : Level) : Bracket (Solving level) (Solving level) where
  subject := .solverAttempt level
  enter s := s
  leave _ failure after := (.ok (.caught failure), after)

/-- A solver started from a session, as a bracket. -/
def Bridge.bracket (level : Level) (b : Bridge) : Bracket Session (Solving level) where
  subject := .bridge level b
  enter s :=
    match b with
    | lift => ⟨s, .start s.state.nextUnknown⟩
    | standalone first => ⟨s, .start first⟩
  leave _ failure after :=
    match b, failure with
    | lift, none =>
      (.ok (.solved level after.solver.substitution),
        { after.session with state.nextUnknown := after.solver.nextUnknown })
    | standalone _, none =>
      (.ok (.solvedUpTo level after.solver.nextUnknown after.solver.substitution), after.session)
    -- a solver that has failed leaves nothing to the session
    | _, some stack => (.error stack, after.session)

/-- A check program as a step of a solver, as a bracket. -/
def Solving.checkStep (level : Level) : Bracket (Solving level) Session where
  subject := .checkStep level
  enter s :=
    { s.session with
      state.nextUnknown := max s.session.state.nextUnknown s.solver.nextUnknown }
  leave before failure after :=
    let result := match failure with
      | none => .ok .nothing
      | some stack => .error stack
    -- the counters are handed back in the same way on both outcomes
    (result,
      { session := { after with state.nextUnknown := before.session.state.nextUnknown }
        solver := { before.solver with
          nextUnknown := max before.solver.nextUnknown after.state.nextUnknown } })

/-! ## Programs -/

mutual

/-- The execution of a check program. -/
def CheckProgram.run : CheckProgram → Session → Execution Session
  | .done, s => .idle s
  | .step command rest, s => (command.run s).andThen rest.run

/-- The execution of a check command. -/
def CheckCommand.run : CheckCommand → Session → Execution Session
  | .act action, s => action.run s
  | .wrap wrapper body, s => wrapper.bracket.around body.run s
  | .unify level bridge body, s => (bridge.bracket level).around body.run s

/-- The execution of a solver program. -/
def SolverProgram.run : {level : Level} → SolverProgram level → Solving level →
    Execution (Solving level)
  | _, .done, s => .idle s
  | _, .step command rest, s => (command.run s).andThen rest.run

/-- The execution of a solver command. -/
def SolverCommand.run : {level : Level} → SolverCommand level → Solving level →
    Execution (Solving level)
  | _, .act action, s => action.run s
  | level, .attempt body, s => (Solving.attempt level).around body.run s
  | level, .check body, s => (Solving.checkStep level).around body.run s

end

end TypingSession
