import TypingSession.Failure.Amendment
import TypingSession.Session.Scope
import TypingSession.Unification.Level

/-!
# TypingSession — programs

A session carries out programs of two kinds. A check program works on the state
of the session; a solver program works on a solver of one level. They nest in
each other: a check program can start a solver, and a solver can run a check
program as one of its steps.

A command is an action of its own, or it has a body. Bodies of check commands
stand in a wrapper, which opens a scope, adds context to a failure or catches
it, or in a bridge, which starts a solver.
-/

namespace TypingSession

/-- Where an environment is taken from. -/
inductive EnvironmentSource where
  /-- One that was put aside. -/
  | shelf (label : String)
  /-- A given one. -/
  | given (e : Environment)
deriving DecidableEq

/-- A single step of a check program. -/
inductive CheckAction where
  /-- Declares a name. -/
  | addName (name : FullName) (entry : NameEntry)
  /-- Declares a type name. -/
  | addType (name : FullName) (entry : TypeEntry)
  /-- Adds a dictionary behind those in scope. -/
  | addDictionary (d : Dictionary)
  /-- Asks what is known of a name. -/
  | findName (name : FullName)
  /-- Asks what is known of a type name. -/
  | findType (name : FullName)
  /-- Asks for the type of a name as seen from a module, and fails if it has none. -/
  | typeOf (current : ModuleName) (name : Qualified)
  /-- Asks for the kind of a type name as seen from a module, and fails if it has
  none. -/
  | kindOf (current : ModuleName) (name : Qualified)
  /-- Hands out a new dictionary name. -/
  | freshDictionary
  /-- Moves to a module. -/
  | setModule (m : ModuleName)
  /-- Asks for the module being checked. -/
  | currentModule
  /-- Asks for the environment. -/
  | environment
  /-- Asks for the dictionaries in scope. -/
  | dictionaries
  /-- Puts a copy of the environment aside. -/
  | saveEnvironment (label : String)
  /-- Takes another environment in place of the present one. -/
  | putEnvironment (source : EnvironmentSource)
  /-- Asks whether the environment is the one put aside. -/
  | isSaved (label : String)
  /-- Fails. -/
  | fail (stack : ErrorStack)
  /-- Fails unless a condition holds. -/
  | guard (stack : ErrorStack) (condition : Bool)
deriving DecidableEq

/-- What surrounds a body of check commands. -/
inductive Wrapper where
  /-- Catches the failure of its body. -/
  | attempt
  /-- Puts a frame around the failure of its body. -/
  | context (frame : Frame)
  /-- Amends the failure of its body. -/
  | rethrow (changes : List Amendment)
  /-- Opens a scope for its body. -/
  | scope (s : Scope)
deriving DecidableEq

/-- How a solver is started from a session. -/
inductive Bridge where
  /-- From the counter of the session, which moves on when the solver succeeds. -/
  | lift
  /-- From a counter of its own. -/
  | standalone (first : Nat)
deriving DecidableEq

/-- A single step of a solver program. -/
inductive SolverAction (level : Level) where
  /-- Hands out a new unknown. -/
  | freshUnknown
  /-- Hands out a new unknown as a term. -/
  | fresh
  /-- Records a term for an unknown. -/
  | solve (u : Nat) (t : level.Term)
  /-- Replaces the solved unknowns of a term. -/
  | apply (t : level.Term)
  /-- Asks what has been solved. -/
  | substitution
  /-- Fails. -/
  | fail (stack : ErrorStack)
deriving DecidableEq

mutual

/-- Check commands, one after the other. -/
inductive CheckProgram where
  /-- No more commands. -/
  | done
  /-- A command, then the rest. -/
  | step (command : CheckCommand) (rest : CheckProgram)

/-- A command of a check program. -/
inductive CheckCommand where
  /-- An action. -/
  | act (action : CheckAction)
  /-- A body in a wrapper. -/
  | wrap (wrapper : Wrapper) (body : CheckProgram)
  /-- A solver. -/
  | unify (level : Level) (bridge : Bridge) (body : SolverProgram level)

/-- Solver commands, one after the other. -/
inductive SolverProgram : Level → Type where
  /-- No more commands. -/
  | done {level : Level} : SolverProgram level
  /-- A command, then the rest. -/
  | step {level : Level} (command : SolverCommand level) (rest : SolverProgram level) :
    SolverProgram level

/-- A command of a solver program. -/
inductive SolverCommand : Level → Type where
  /-- An action. -/
  | act {level : Level} (action : SolverAction level) : SolverCommand level
  /-- A body whose failure is caught. -/
  | attempt {level : Level} (body : SolverProgram level) : SolverCommand level
  /-- A check program as one step. -/
  | check {level : Level} (body : CheckProgram) : SolverCommand level

end

/-- The program of a list of commands. -/
def CheckProgram.ofList : List CheckCommand → CheckProgram
  | [] => done
  | c :: rest => step c (ofList rest)

/-- The program of a list of commands. -/
def SolverProgram.ofList {level : Level} : List (SolverCommand level) → SolverProgram level
  | [] => done
  | c :: rest => step c (ofList rest)

end TypingSession
