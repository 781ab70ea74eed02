import TypingSession.Session.Program
import TypingSession.Session.Reply

/-!
# TypingSession — traces

The trace of a run lists what happened, in the order in which it happened. A
command that finishes or fails makes one event, and a command with a body makes
another as it enters the body. Each event shows the state at that moment.
-/

namespace TypingSession

/-- What an event is about: a command, without its body. -/
inductive Subject where
  /-- An action of a check program. -/
  | action (a : CheckAction)
  /-- A wrapper around check commands. -/
  | wrapper (w : Wrapper)
  /-- A solver started from a session. -/
  | bridge (level : Level) (b : Bridge)
  /-- An action of a solver program. -/
  | solverAction (level : Level) (a : SolverAction level)
  /-- A body of solver commands whose failure is caught. -/
  | solverAttempt (level : Level)
  /-- A check program as a step of a solver. -/
  | checkStep (level : Level)
deriving DecidableEq

/-- How far the command of an event has come. -/
inductive Stage where
  /-- It is about to run its body. -/
  | entered
  /-- It has succeeded. -/
  | finished (reply : Reply)
  /-- It has failed. -/
  | failed (stack : ErrorStack)
deriving DecidableEq

/-- What can be seen at the moment of an event. -/
inductive Moment where
  /-- A session that carries out check commands. -/
  | checking (state : State)
  /-- A solver, and the session that it runs in. -/
  | solving (level : Level) (solver : Solver level.Term) (state : State)
deriving DecidableEq

/-- One entry of a trace. -/
structure Event where
  /-- What it is about. -/
  subject : Subject
  /-- How far that has come. -/
  stage : Stage
  /-- What could be seen then. -/
  moment : Moment
deriving DecidableEq

/-- The entries of a trace, the earliest first. -/
abbrev Trace := List Event

/-! ## What was handed out -/

/-- The unknown that an answer hands out, if that is what it does. -/
def Reply.minted? : Reply → Option Nat
  | unknown u => some u
  | freshTerm _ u => some u
  | _ => none

/-- The unknown that a command has handed out, if that is what it did. -/
def Event.minted? (e : Event) : Option Nat :=
  match e.stage with
  | .finished reply => reply.minted?
  | .entered | .failed _ => none

/-- The dictionary name that a command has handed out, if that is what it did. -/
def Event.dictionaryName? (e : Event) : Option Nat :=
  match e.stage with
  | .finished (.dictionaryName n) => some n
  | _ => none

/-- The unknowns handed out in the course of a trace. -/
def Trace.minted (t : Trace) : List Nat := t.filterMap Event.minted?

/-- The dictionary names handed out in the course of a trace. -/
def Trace.dictionaryNames (t : Trace) : List Nat := t.filterMap Event.dictionaryName?

end TypingSession
