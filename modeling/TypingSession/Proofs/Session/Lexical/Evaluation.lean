import TypingSession.Proofs.Session.Lexical.Context
import TypingSession.Session.Run

/-!
# TypingSession — lexical evaluation

An interpreter of programs in which the environment is not part of any state. Every
command is told the context that it stands in. A scope tells its body a longer one, and
the command behind the scope is told the old one again: there is nothing to put back.
What is handed on from command to command is the rest of a session, namely its counters
and its module (`Progress`), and the solver at work (`SolverProgress`). A solver is told
the counter that the session has lent to it; it needs no other access to that counter.

A failure hands on nothing, since nobody catches it. So a command has no evaluation if
it catches failures, or if it edits the environment or takes it as a whole. A program
without such commands is *lexical*.
-/

namespace TypingSession

/-! ## Evaluations -/

/-- One entry of what an evaluation tells. -/
structure Note where
  /-- What it is about. -/
  subject : Subject
  /-- How far that has come. -/
  stage : Stage
  /-- Where that stands: its body, if it is about to run one. -/
  context : Context

/-- How an evaluation ends. -/
inductive Conclusion (ρ : Type) where
  /-- It has succeeded, and hands something on. -/
  | finished (final : ρ)
  /-- It has failed. -/
  | failed (stack : ErrorStack)
  /-- It has asked for more unknowns than there are. -/
  | exhausted
  /-- It has come to a command that has no evaluation. -/
  | stuck

/-- What comes of evaluating something. -/
structure Evaluation (ρ : Type) where
  /-- What happened, the earliest first. -/
  notes : List Note
  /-- How it ended. -/
  conclusion : Conclusion ρ

namespace Evaluation

variable {ρ π : Type}

/-- The evaluation of nothing. -/
def idle (r : ρ) : Evaluation ρ := ⟨[], .finished r⟩

/-- An evaluation that ends because the unknowns have run out. -/
def exhausted : Evaluation ρ := ⟨[], .exhausted⟩

/-- The evaluation of a command that has none. -/
def stuck : Evaluation ρ := ⟨[], .stuck⟩

/-- The evaluation of a single action. -/
def single (subject : Subject) (c : Context) (result : Except ErrorStack Reply) (final : ρ) :
    Evaluation ρ :=
  match result with
  | .ok reply => ⟨[⟨subject, .finished reply, c⟩], .finished final⟩
  | .error stack => ⟨[⟨subject, .failed stack, c⟩], .failed stack⟩

/-- One evaluation and, if it has finished, another with what it hands on. -/
def andThen (v : Evaluation ρ) (next : ρ → Evaluation ρ) : Evaluation ρ :=
  match v.conclusion with
  | .finished r => ⟨v.notes ++ (next r).notes, (next r).conclusion⟩
  | .failed _ | .exhausted | .stuck => v

/-- The evaluation of a command with a body, which stands in the context `inner`, from the
evaluation of that body. -/
def enclosed (subject : Subject) (outer inner : Context) (amend : ErrorStack → ErrorStack)
    (close : ρ → Reply × π) (body : Evaluation ρ) : Evaluation π :=
  let opening : Note := ⟨subject, .entered, inner⟩
  match body.conclusion with
  | .finished r =>
    ⟨opening :: (body.notes ++ [⟨subject, .finished (close r).1, outer⟩]), .finished (close r).2⟩
  | .failed stack =>
    ⟨opening :: (body.notes ++ [⟨subject, .failed (amend stack), outer⟩]), .failed (amend stack)⟩
  | .exhausted => ⟨opening :: body.notes, .exhausted⟩
  | .stuck => ⟨opening :: body.notes, .stuck⟩

end Evaluation

/-! ## Check commands -/

/-- What one check command hands on to the next. -/
structure Progress where
  /-- The first unknown that the next solver hands out. -/
  nextUnknown : Nat
  /-- The next dictionary name. -/
  nextDictionary : Nat
  /-- The module being checked, once it has been set. -/
  currentModule : Option ModuleName
deriving DecidableEq

/-- A state without its environment. -/
def State.progress (s : State) : Progress := ⟨s.nextUnknown, s.nextDictionary, s.currentModule⟩

/-- The evaluation of an action. -/
def CheckAction.evaluate (a : CheckAction) (c : Context) (p : Progress) : Evaluation Progress :=
  let answer (result : Except ErrorStack Reply) : Evaluation Progress :=
    .single (.action a) c result p
  match a with
  | findName name => answer (.ok (.nameEntry (c.name? name)))
  | findType name => answer (.ok (.typeEntry (c.type? name)))
  | typeOf current name =>
    match c.name? (name.full current) with
    | some entry => answer (.ok (.type entry.type))
    | none => answer (.error (LookupError.undefinedVariable name).stack)
  | kindOf current name =>
    match c.type? (name.full current) with
    | some entry => answer (.ok (.kind entry.kind))
    | none => answer (.error (LookupError.undefinedType name).stack)
  | freshDictionary =>
    .single (.action a) c (.ok (.dictionaryName p.nextDictionary))
      { p with nextDictionary := p.nextDictionary + 1 }
  | setModule m => .single (.action a) c (.ok .nothing) { p with currentModule := some m }
  | currentModule => answer (.ok (.currentModule p.currentModule))
  | dictionaries => answer (.ok (.dictionaries c.dictionaries))
  | fail stack => answer (.error stack)
  | guard stack condition => answer (if condition then .ok .nothing else .error stack)
  -- these edit the environment, or ask for all of it
  | addName _ _ | addType _ _ | addDictionary _ | putEnvironment _ => .stuck
  | environment | saveEnvironment _ | isSaved _ => .stuck

/-- The evaluation of a body in a wrapper. Only a scope changes the context. -/
def Wrapper.evaluate (w : Wrapper) (body : Context → Progress → Evaluation Progress)
    (c : Context) (p : Progress) : Evaluation Progress :=
  match w with
  | scope added => .enclosed (.wrapper w) c (c.push added) id (.nothing, ·) (body (c.push added) p)
  | context frame => .enclosed (.wrapper w) c c (·.pushOuter frame) (.nothing, ·) (body c p)
  | rethrow changes =>
    .enclosed (.wrapper w) c c (Amendment.applyAll changes) (.nothing, ·) (body c p)
  | attempt => .stuck

/-! ## Solvers -/

/-- What one solver command hands on to the next. -/
structure SolverProgress (level : Level) where
  /-- The solver. -/
  solver : Solver level.Term
  /-- The next dictionary name. -/
  nextDictionary : Nat
  /-- The module being checked, once it has been set. -/
  currentModule : Option ModuleName

/-- The evaluation of a check program as a step of a solver. It starts from the larger of
the two counters, and the solver goes on from the larger again. -/
def SolverProgress.checkStep (level : Level) (body : Context → Progress → Evaluation Progress) (c : Context)
    (lent : Nat) (p : SolverProgress level) : Evaluation (SolverProgress level) :=
  .enclosed (.checkStep level) c c id
    (fun q => (.nothing,
      ⟨{ p.solver with nextUnknown := max p.solver.nextUnknown q.nextUnknown },
        q.nextDictionary, q.currentModule⟩))
    (body c ⟨max lent p.solver.nextUnknown, p.nextDictionary, p.currentModule⟩)

/-- The evaluation of an action. -/
def SolverAction.evaluate {level : Level} (a : SolverAction level) (c : Context)
    (p : SolverProgress level) : Evaluation (SolverProgress level) :=
  let answer (result : Except ErrorStack Reply) (solver : Solver level.Term) :=
    Evaluation.single (.solverAction level a) c result { p with solver }
  match a with
  | freshUnknown =>
    match p.solver.fresh? with
    | some (u, solver) => answer (.ok (.unknown u)) solver
    | none => .exhausted
  | fresh =>
    match p.solver.fresh? with
    | some (u, solver) => answer (.ok (.freshTerm level u)) solver
    | none => .exhausted
  | solve u t =>
    match p.solver.solve u t with
    | .ok solver => answer (.ok (.substitution level solver.substitution)) solver
    | .error e => answer (.error e.stack) p.solver
  | apply t => answer (.ok (.term level (p.solver.substitution.apply t))) p.solver
  | substitution => answer (.ok (.substitution level p.solver.substitution)) p.solver
  | fail stack => answer (.error stack) p.solver

/-- The evaluation of a solver. Its body is told the counter of the session. -/
def Bridge.evaluate (level : Level) (b : Bridge)
    (body : Context → Nat → SolverProgress level → Evaluation (SolverProgress level))
    (c : Context) (p : Progress) : Evaluation Progress :=
  let started (first : Nat) : Evaluation (SolverProgress level) :=
    body c p.nextUnknown ⟨.start first, p.nextDictionary, p.currentModule⟩
  match b with
  | lift =>
    .enclosed (.bridge level b) c c id
      (fun q => (.solved level q.solver.substitution,
        ⟨q.solver.nextUnknown, q.nextDictionary, q.currentModule⟩))
      (started p.nextUnknown)
  | standalone first =>
    .enclosed (.bridge level b) c c id
      (fun q => (.solvedUpTo level q.solver.nextUnknown q.solver.substitution,
        ⟨p.nextUnknown, q.nextDictionary, q.currentModule⟩))
      (started first)

/-! ## Programs -/

mutual

/-- The evaluation of a check program. -/
def CheckProgram.evaluate : CheckProgram → Context → Progress → Evaluation Progress
  | .done, _, p => .idle p
  | .step command rest, c, p => (command.evaluate c p).andThen (rest.evaluate c)

/-- The evaluation of a check command. -/
def CheckCommand.evaluate : CheckCommand → Context → Progress → Evaluation Progress
  | .act a, c, p => a.evaluate c p
  | .wrap w body, c, p => w.evaluate body.evaluate c p
  | .unify level b body, c, p => b.evaluate level body.evaluate c p

/-- The evaluation of a solver program. -/
def SolverProgram.evaluate : {level : Level} → SolverProgram level → Context → Nat →
    SolverProgress level → Evaluation (SolverProgress level)
  | _, .done, _, _, p => .idle p
  | _, .step command rest, c, lent, p => (command.evaluate c lent p).andThen (rest.evaluate c lent)

/-- The evaluation of a solver command. -/
def SolverCommand.evaluate : {level : Level} → SolverCommand level → Context → Nat →
    SolverProgress level → Evaluation (SolverProgress level)
  | _, .act a, c, _, p => a.evaluate c p
  | _, .attempt _, _, _, _ => .stuck
  | level, .check body, c, lent, p => SolverProgress.checkStep level body.evaluate c lent p

end

/-! ## Lexical programs -/

/-- Whether an action can be told from a context. -/
def CheckAction.isLexical : CheckAction → Bool
  | findName _ | findType _ | typeOf _ _ | kindOf _ _ | dictionaries => true
  | freshDictionary | setModule _ | currentModule | fail _ | guard _ _ => true
  | addName _ _ | addType _ _ | addDictionary _ | putEnvironment _ => false
  | environment | saveEnvironment _ | isSaved _ => false

mutual

/-- Whether no command of a check program edits the environment, takes it as a whole or
catches a failure. -/
def CheckProgram.isLexical : CheckProgram → Bool
  | .done => true
  | .step command rest => command.isLexical && rest.isLexical

/-- The same of a check command. -/
def CheckCommand.isLexical : CheckCommand → Bool
  | .act a => a.isLexical
  | .wrap w body => w != .attempt && body.isLexical
  | .unify _ _ body => body.isLexical

/-- The same of a solver program. -/
def SolverProgram.isLexical : {level : Level} → SolverProgram level → Bool
  | _, .done => true
  | _, .step command rest => command.isLexical && rest.isLexical

/-- The same of a solver command. -/
def SolverCommand.isLexical : {level : Level} → SolverCommand level → Bool
  | _, .act _ => true
  | _, .attempt _ => false
  | _, .check body => body.isLexical

end

end TypingSession
