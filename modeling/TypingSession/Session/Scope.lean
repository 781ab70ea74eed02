import TypingSession.Session.State

/-!
# TypingSession — scopes

A scope adds entries to one field of the environment for as long as a body runs.
Its entries hide earlier ones of the same name, and of two entries for one name
the later wins; dictionaries come in front of those already there. When the body
has succeeded, that field is put back as it was, and the other two stay as the
body left them.
-/

namespace TypingSession

/-- One of the three fields of an environment. -/
inductive Field where
  /-- The names. -/
  | names
  /-- The type names. -/
  | types
  /-- The dictionaries. -/
  | dictionaries
deriving DecidableEq, Repr

/-- An environment with one field taken from an earlier one. -/
def Field.restore (field : Field) (earlier now : Environment) : Environment :=
  match field with
  | names => { now with names := earlier.names }
  | types => { now with types := earlier.types }
  | dictionaries => { now with dictionaries := earlier.dictionaries }

/-- The entries that a scope adds. -/
inductive Scope where
  /-- Names. -/
  | names (bindings : List (FullName × NameEntry))
  /-- Type names. -/
  | types (bindings : List (FullName × TypeEntry))
  /-- The variables that an expression of a module binds. -/
  | localVariables (module : ModuleName) (bindings : List (String × Ty))
  /-- The type variables that a declaration of a module binds. -/
  | localTypeVariables (module : ModuleName) (bindings : List (String × Kind))
  /-- Dictionaries, preferred to those in scope. -/
  | dictionaries (entries : List Dictionary)
deriving DecidableEq, Repr

namespace Scope

/-- The field that a scope adds to. -/
def field : Scope → Field
  | names _ | localVariables _ _ => .names
  | types _ | localTypeVariables _ _ => .types
  | dictionaries _ => .dictionaries

/-- Local variables as names of their module. -/
def localNames (module : ModuleName) (bindings : List (String × Ty)) :
    List (FullName × NameEntry) :=
  bindings.map fun (name, type) => (⟨module, name⟩, ⟨type, .localVariable⟩)

/-- Local type variables as type names of their module. -/
def localTypes (module : ModuleName) (bindings : List (String × Kind)) :
    List (FullName × TypeEntry) :=
  bindings.map fun (name, kind) => (⟨module, name⟩, ⟨kind, .localVariable⟩)

/-- The environment inside a scope. -/
def extend (scope : Scope) (e : Environment) : Environment :=
  match scope with
  | names bindings => { e with names := e.names.insertMany bindings }
  | types bindings => { e with types := e.types.insertMany bindings }
  | localVariables module bindings =>
    { e with names := e.names.insertMany (localNames module bindings) }
  | localTypeVariables module bindings =>
    { e with types := e.types.insertMany (localTypes module bindings) }
  | dictionaries entries => { e with dictionaries := entries ++ e.dictionaries }

end Scope

end TypingSession
