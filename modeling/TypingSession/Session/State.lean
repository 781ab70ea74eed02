import TypingSession.Environment
import TypingSession.Failure.Stack

/-!
# TypingSession — the state of a session

A session owns an environment, counts the unknowns and the dictionary names that
it has handed out, and remembers the module that it is in. Lookups go through
the environment as it is at that moment.
-/

namespace TypingSession

/-- What a session owns while it runs. -/
structure State where
  /-- What is known at the moment. -/
  environment : Environment
  /-- The first unknown that the next solver hands out. -/
  nextUnknown : Nat
  /-- The next dictionary name. -/
  nextDictionary : Nat
  /-- The module being checked, once it has been set. -/
  currentModule : Option ModuleName
deriving DecidableEq

/-- Why a lookup fails. -/
inductive LookupError where
  /-- No name of that spelling is in scope. -/
  | undefinedVariable (name : Qualified)
  /-- No type of that spelling is in scope. -/
  | undefinedType (name : Qualified)
deriving DecidableEq, Repr

namespace LookupError

/-- The message of a failed lookup. -/
def message : LookupError → String
  | undefinedVariable name => "Undefined variable " ++ name.text
  | undefinedType name => "Undefined type " ++ name.text

/-- The failure that a failed lookup causes. -/
def stack (e : LookupError) : ErrorStack := .single e.message none

end LookupError

namespace State

/-- The state of a session that begins in an environment. -/
def start (e : Environment) : State := ⟨e, 0, 0, none⟩

/-- The type of a name as seen from a module. -/
def typeOf (s : State) (current : ModuleName) (name : Qualified) : Except LookupError Ty :=
  match s.environment.names[name.full current]? with
  | some entry => .ok entry.type
  | none => .error (.undefinedVariable name)

/-- The kind of a type name as seen from a module. -/
def kindOf (s : State) (current : ModuleName) (name : Qualified) : Except LookupError Kind :=
  match s.environment.types[name.full current]? with
  | some entry => .ok entry.kind
  | none => .error (.undefinedType name)

end State

/-- Environments that were put aside, by label. -/
abbrev Shelf := Std.ExtTreeMap String Environment

/-- A session at work: its state, and the environments that were put aside under
a label. -/
structure Session where
  /-- The state of the session. -/
  state : State
  /-- The environments put aside. -/
  shelf : Shelf
deriving DecidableEq

namespace Session

/-- The session at the start of a run. -/
def start (e : Environment) (shelf : Shelf) : Session := ⟨.start e, shelf⟩

/-- The session with its environment changed. -/
def modifyEnvironment (s : Session) (f : Environment → Environment) : Session :=
  { s with state.environment := f s.state.environment }

end Session

end TypingSession
