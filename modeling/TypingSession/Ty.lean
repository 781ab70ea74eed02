import TypingSession.Name
import TypingSession.Text.Enclosed

/-!
# TypingSession — types

The types that sessions record and solve for, and how they are written. An
application takes one argument at a time, an arrow and a quantifier extend as
far to the right as they can, and parentheses stand only where the reading
would otherwise change.
-/

namespace TypingSession

/-- A type. -/
inductive Ty where
  /-- A type still to be found, by its number. -/
  | unknown (u : Nat)
  /-- A type variable. -/
  | var (name : String)
  /-- A named type constructor. -/
  | con (name : Qualified)
  /-- The application of a type to an argument. -/
  | app (function argument : Ty)
  /-- The type of functions. -/
  | function (argument result : Ty)
  /-- A type for every choice of a variable. -/
  | forAll (var : String) (body : Ty)
deriving DecidableEq, Repr, Inhabited

namespace Ty

/-- A type constructor of the built-in module. -/
def prim (name : String) : Ty := .con ⟨some .prim, name⟩

/-- Whether the written form is a single word. -/
def isAtomic : Ty → Bool
  | unknown _ | var _ | con _ => true
  | app _ _ | function _ _ | forAll _ _ => false

/-- Whether the written form extends to the right without end. -/
def isOpen : Ty → Bool
  | function _ _ | forAll _ _ => true
  | unknown _ | var _ | con _ | app _ _ => false

/-- The written form of a type. -/
def text : Ty → String
  | unknown u => "_" ++ u.repr
  | var name => name
  | con name => name.text
  | app f a => Text.enclosed f.isOpen f.text ++ " " ++ Text.enclosed (!a.isAtomic) a.text
  | function a r => Text.enclosed a.isOpen a.text ++ " -> " ++ r.text
  | forAll v body => "forall " ++ v ++ ". " ++ body.text

end Ty

end TypingSession
