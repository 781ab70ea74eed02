import TypingSession.Kind
import TypingSession.Ty

/-!
# TypingSession — environments

An environment holds what a session knows: the types of names, the kinds of type
names, and the type class dictionaries in order of preference.
-/

namespace TypingSession

/-- How a name came into scope. -/
inductive NameOrigin where
  /-- A declaration of its module. -/
  | declared
  /-- A foreign import. -/
  | foreign
  /-- An import under another name, with the name it stands for. -/
  | alias (target : FullName)
  /-- A binder of an expression. -/
  | localVariable
  /-- A data constructor. -/
  | constructor
  /-- A generated dictionary of a type class instance. -/
  | dictionary
deriving DecidableEq, Repr

/-- What is known of a name. -/
structure NameEntry where
  /-- The type of the name. -/
  type : Ty
  /-- How it came into scope. -/
  origin : NameOrigin
deriving DecidableEq, Repr

/-- How a type name came into scope. -/
inductive TypeOrigin where
  /-- A data type, with its parameters and its constructors. -/
  | data (parameters : List String) (constructors : List (String × List Ty))
  /-- A synonym. -/
  | alias
  /-- A foreign or built-in type. -/
  | foreign
  /-- A type variable in scope. -/
  | localVariable
deriving DecidableEq, Repr

/-- What is known of a type name. -/
structure TypeEntry where
  /-- The kind of the type. -/
  kind : Kind
  /-- How it came into scope. -/
  origin : TypeOrigin
deriving DecidableEq, Repr

/-- Where a dictionary comes from. -/
inductive DictionaryOrigin where
  /-- An instance declaration. -/
  | declaredInstance
  /-- The superclass of another dictionary. -/
  | superclass
deriving DecidableEq, Repr

/-- A type class dictionary in scope. -/
structure Dictionary where
  /-- The name of its value. -/
  name : Qualified
  /-- The class that it implements. -/
  className : Qualified
  /-- The types that the class is instantiated at. -/
  types : List Ty
  /-- The constraints that the instance depends on, if it states any. -/
  dependencies : Option (List (Qualified × List Ty))
  /-- Where it comes from. -/
  origin : DictionaryOrigin
deriving DecidableEq, Repr

/-- What a session knows. -/
structure Environment where
  /-- The names with their types. -/
  names : Table NameEntry
  /-- The type names with their kinds. -/
  types : Table TypeEntry
  /-- The dictionaries, the preferred ones first. -/
  dictionaries : List Dictionary
deriving DecidableEq

namespace Environment

/-- An environment that holds nothing. -/
def empty : Environment := ⟨∅, ∅, []⟩

instance : EmptyCollection Environment := ⟨empty⟩

/-- The built-in types with their kinds. -/
def primitiveKinds : List (String × Kind) :=
  [ ("Function", .function .star (.function .star .star)),
    ("Array", .function .star .star),
    ("Object", .function (.row .star) .star),
    ("String", .star), ("Number", .star), ("Boolean", .star) ]

/-- An environment that holds the built-in types. -/
def primitive : Environment :=
  { empty with
    types := (∅ : Table TypeEntry).insertMany <|
      primitiveKinds.map fun (name, kind) => (⟨.prim, name⟩, ⟨kind, .foreign⟩) }

end Environment

end TypingSession
