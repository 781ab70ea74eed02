import TypingSession.Text.Alphanumeric
import TypingSession.Text.Split
import TypingSession.Text.Uppercase
import Std.Data.ExtTreeMap

/-!
# TypingSession — names

A module name is a path of segments. A name is written with or without a module
in front of it; one without is looked for in the module being checked. With its
module known, a name is a key of the environment's tables, which are kept in the
order of those keys.

* `ModuleName.ofDotted` and `ModuleName.text` — the dotted form, read and written.
* `Qualified.resolve` — the module in which a name is looked for.
* `Table` — finite maps from full names, in the order of module, then name.
-/

namespace TypingSession

/-! ## Modules -/

/-- A module name, as the path of its segments. -/
structure ModuleName where
  /-- The segments, outermost first. -/
  segments : List String
deriving DecidableEq, Repr, Inhabited

namespace ModuleName

/-- The module that a dotted text names. Segments without a character count for
nothing. -/
def ofDotted (s : String) : ModuleName :=
  ⟨((Text.fields '.' s.toList).filter (!·.isEmpty)).map String.ofList⟩

/-- The dotted form of a module name. -/
def text (m : ModuleName) : String := ".".intercalate m.segments

/-- The module of the built-in types. -/
def prim : ModuleName := ⟨["Prim"]⟩

instance : Ord ModuleName := ⟨compareOn segments⟩

instance : Std.TransOrd ModuleName := inferInstanceAs (Std.TransCmp (compareOn segments))

instance : Std.LawfulEqOrd ModuleName where
  compare_self := @Std.ReflCmp.compare_self _ (compareOn segments) _
  eq_of_compare {a b} h := by
    cases a; cases b
    exact congrArg mk (Std.LawfulEqCmp.eq_of_compare h)

end ModuleName

/-! ## Names as written -/

/-- A name as it is written, with or without a module. -/
structure Qualified where
  /-- The module in front of the name. -/
  module : Option ModuleName
  /-- The name itself. -/
  name : String
deriving DecidableEq, Repr, Inhabited

namespace Qualified

/-- The module in which the name is looked for: the one written, even if it has
no segments, and otherwise the current one. -/
def resolve (q : Qualified) (current : ModuleName) : ModuleName := q.module.getD current

/-- The name as text, after its module and a dot. -/
def text (q : Qualified) : String :=
  match q.module with
  | some m => m.text ++ "." ++ q.name
  | none => q.name

end Qualified

/-! ## Full names -/

/-- A name together with the module that declares it. -/
structure FullName where
  /-- The declaring module. -/
  module : ModuleName
  /-- The name inside that module. -/
  name : String
deriving DecidableEq, Repr, Inhabited

namespace FullName

/-- Module first, then name; each by the code points of its text. -/
def order : FullName → FullName → Ordering := compareLex (compareOn module) (compareOn name)

instance : Std.TransCmp order :=
  inferInstanceAs (Std.TransCmp (compareLex (compareOn module) (compareOn name)))

instance : Ord FullName := ⟨order⟩

instance : Std.TransOrd FullName := inferInstanceAs (Std.TransCmp order)

instance : Std.LawfulEqOrd FullName where
  compare_self := @Std.ReflCmp.compare_self _ order _
  eq_of_compare {a b} h := by
    obtain ⟨hm, hn⟩ := compareLex_eq_eq.mp h
    cases a; cases b
    exact congr (congrArg mk (Std.LawfulEqCmp.eq_of_compare hm)) (Std.LawfulEqCmp.eq_of_compare hn)

end FullName

/-- The name as seen from a module: in its own module if it has one, in the
current one otherwise. -/
def Qualified.full (q : Qualified) (current : ModuleName) : FullName :=
  ⟨q.resolve current, q.name⟩

/-- A finite map from full names. -/
abbrev Table (α : Type) := Std.ExtTreeMap FullName α

/-! ## Spelling -/

/-- Whether a character may stand in a name. -/
def isNameChar (c : Char) : Bool := Text.isAlphanumeric c || c == '_' || c == '\''

/-- Whether a text is the spelling of a name: one or more letters, digits,
underscores and primes. -/
def isIdentifier (l : List Char) : Bool := !l.isEmpty && l.all isNameChar

/-- Whether a text starts with a capital letter. -/
def isCapitalized (l : List Char) : Bool := l.head?.any Text.isUppercase

end TypingSession
