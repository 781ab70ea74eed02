import TypingSession.Number.Shortest
import TypingSession.Text.Quoted
import TypingSession.Ty

/-!
# TypingSession — values

The expressions that a failure can be about, and how they are written. Numbers
compare by value, so equality of expressions is `Value.equal` and not identity:
an expression with a number that is no number differs from itself.
-/

namespace TypingSession

/-- A literal. -/
inductive Literal where
  /-- A number. -/
  | number (d : Double)
  /-- A text. -/
  | string (s : String)
  /-- A truth value. -/
  | boolean (b : Bool)
deriving DecidableEq, Repr

namespace Literal

/-- The written form of a literal. -/
def text : Literal → String
  | number d => d.text
  | string s => Text.quoted s
  | boolean true => "true"
  | boolean false => "false"

/-- Equality of literals. -/
def equal : Literal → Literal → Bool
  | number a, number b => a.equal b
  | string s, string t => s == t
  | boolean a, boolean b => a == b
  | _, _ => false

end Literal

/-- An expression. -/
inductive Value where
  /-- A literal. -/
  | literal (l : Literal)
  /-- A variable, by its name. -/
  | var (name : Qualified)
  /-- A data constructor, by its name. -/
  | con (name : Qualified)
  /-- The application of a function to an argument. -/
  | app (function argument : Value)
  /-- A function of one parameter. -/
  | abs (parameter : String) (body : Value)
  /-- An expression with its type. -/
  | typed (value : Value) (type : Ty)
deriving DecidableEq, Repr

namespace Value

/-- Whether the written form is a single word. -/
def isAtomic : Value → Bool
  | literal _ | var _ | con _ => true
  | app _ _ | abs _ _ | typed _ _ => false

/-- Whether the written form extends to the right without end. -/
def isOpen : Value → Bool
  | abs _ _ | typed _ _ => true
  | literal _ | var _ | con _ | app _ _ => false

/-- The written form of an expression. -/
def text : Value → String
  | literal l => l.text
  | var name => name.text
  | con name => name.text
  | app f a => Text.enclosed f.isOpen f.text ++ " " ++ Text.enclosed (!a.isAtomic) a.text
  | abs x body => "\\" ++ x ++ " -> " ++ body.text
  | typed v t => v.text ++ " :: " ++ t.text

/-- Equality of expressions, with numbers compared by value. -/
def equal : Value → Value → Bool
  | literal a, literal b => a.equal b
  | var a, var b => a == b
  | con a, con b => a == b
  | app f a, app g b => f.equal g && a.equal b
  | abs x a, abs y b => x == y && a.equal b
  | typed v t, typed w u => v.equal w && t == u
  | _, _ => false

end Value

end TypingSession
