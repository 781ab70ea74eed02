import TypingSession.Text.Enclosed

/-!
# TypingSession — kinds

The kinds of types, and how they are written. A row binds tighter than an arrow,
and arrows associate to the right.
-/

namespace TypingSession

/-- A kind: what a type is a type of. -/
inductive Kind where
  /-- A kind still to be found, by its number. -/
  | unknown (u : Nat)
  /-- The kind of types that have values. -/
  | star
  /-- The kind of rows over a kind. -/
  | row (entry : Kind)
  /-- The kind of type constructors. -/
  | function (argument result : Kind)
deriving DecidableEq, Repr, Inhabited

namespace Kind

/-- Whether the written form has an arrow outside parentheses. -/
def isArrow : Kind → Bool
  | function _ _ => true
  | unknown _ | star | row _ => false

/-- The written form of a kind. -/
def text : Kind → String
  | unknown u => "_" ++ u.repr
  | star => "*"
  | row k => "# " ++ Text.enclosed k.isArrow k.text
  | function a r => Text.enclosed a.isArrow a.text ++ " -> " ++ r.text

end Kind

end TypingSession
