import TypingSession.Unification.Solver

/-!
# TypingSession — levels

A solver works on one level of terms: on types or on kinds.
-/

namespace TypingSession

/-- What a solver solves for. -/
inductive Level where
  /-- Types. -/
  | type
  /-- Kinds. -/
  | kind
deriving DecidableEq, Repr

/-- The terms of a level. -/
@[reducible] def Level.Term : Level → Type
  | type => Ty
  | kind => Kind

instance : (level : Level) → Unifiable level.Term
  | .type => inferInstanceAs (Unifiable Ty)
  | .kind => inferInstanceAs (Unifiable Kind)

instance : (level : Level) → LawfulHasUnknowns level.Term
  | .type => inferInstanceAs (LawfulHasUnknowns Ty)
  | .kind => inferInstanceAs (LawfulHasUnknowns Kind)

instance : (level : Level) → DecidableEq level.Term
  | .type => inferInstanceAs (DecidableEq Ty)
  | .kind => inferInstanceAs (DecidableEq Kind)

end TypingSession
