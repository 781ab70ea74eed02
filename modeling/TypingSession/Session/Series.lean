import TypingSession.Session.Run

/-!
# TypingSession — runs in a row

A run starts a session in an environment, carries out a program, and answers
with the final environment or with a report of the failure. Runs follow one
another: the environment of a run that has succeeded is where the next begins,
a run that has failed leaves that place unchanged, and what was put aside stays
at hand in both cases.
-/

namespace TypingSession

/-- A program to run, and how its failure is reported. -/
structure Request where
  /-- Whether a failure is reported in full. -/
  verbose : Bool
  /-- What to run. -/
  program : CheckProgram

/-- The answer to a request. -/
inductive Answer where
  /-- The environment at the end of a run that has succeeded. -/
  | environment (e : Environment)
  /-- The report of a failure. -/
  | report (text : String)
deriving DecidableEq

/-- A run as it is recorded. -/
structure RunRecord where
  /-- What happened. -/
  trace : Trace
  /-- The answer. -/
  answer : Answer
deriving DecidableEq

namespace Request

/-- The record of a run that starts in an environment, with the environment and
the shelf for the next run; nothing if the unknowns have run out. -/
def run? (r : Request) (e : Environment) (shelf : Shelf) :
    Option (RunRecord × Environment × Shelf) :=
  let execution := r.program.run (.start e shelf)
  match execution.outcome with
  | .finished s =>
    let final := s.state.environment
    some (⟨execution.trace, .environment final⟩, final, s.shelf)
  | .failed stack s =>
    -- whatever the failed program did to the environment is forgotten
    some (⟨execution.trace, .report (stack.report r.verbose)⟩, e, s.shelf)
  | .exhausted => none

/-- The records of requests carried out one after the other; nothing if one of
them runs out of unknowns. -/
def runAll? : List Request → Environment → Shelf → Option (List RunRecord)
  | [], _, _ => some []
  | r :: rest, e, shelf =>
    match r.run? e shelf with
    | some (record, next, shelf) => (runAll? rest next shelf).map (record :: ·)
    | none => none

end Request

end TypingSession
