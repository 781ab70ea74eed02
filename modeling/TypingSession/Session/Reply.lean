import TypingSession.Environment
import TypingSession.Unification.Level

/-!
# TypingSession — replies

What a command answers when it has succeeded.
-/

namespace TypingSession

/-- The answer of a command that has succeeded. -/
inductive Reply where
  /-- Nothing but its effect. -/
  | nothing
  /-- What is known of a name. -/
  | nameEntry (entry : Option NameEntry)
  /-- What is known of a type name. -/
  | typeEntry (entry : Option TypeEntry)
  /-- The type of a name. -/
  | type (t : Ty)
  /-- The kind of a type name. -/
  | kind (k : Kind)
  /-- A new dictionary name. -/
  | dictionaryName (n : Nat)
  /-- The module being checked. -/
  | currentModule (m : Option ModuleName)
  /-- The environment. -/
  | environment (e : Environment)
  /-- The dictionaries in scope. -/
  | dictionaries (ds : List Dictionary)
  /-- A truth value. -/
  | truth (b : Bool)
  /-- The failure that was caught, if there was one. -/
  | caught (failure : Option ErrorStack)
  /-- A new unknown. -/
  | unknown (u : Nat)
  /-- A new unknown, as a term. -/
  | freshTerm (level : Level) (u : Nat)
  /-- A term. -/
  | term (level : Level) (t : level.Term)
  /-- What a solver has solved so far. -/
  | substitution (level : Level) (s : Substitution level.Term)
  /-- What a solver started in this session solved. -/
  | solved (level : Level) (s : Substitution level.Term)
  /-- What a solver started on its own solved, and the next unknown at its end. -/
  | solvedUpTo (level : Level) (next : Nat) (s : Substitution level.Term)
deriving DecidableEq

end TypingSession
