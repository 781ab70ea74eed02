import TypingSession.Session.Scope

/-!
# TypingSession — contexts

What is known at a place in a program can be told from the program alone: from the
scopes that the place stands in, and from the environment outside of all of them. A
*context* is just that. Nothing is taken back in it; what stands behind a scope is told
from the context of the scope itself.

A session has no such list of scopes. It has the tables of an environment, in which a
scope has overwritten some entries. An environment *shows* a context if looking
something up in the one gives the same as looking it up in the other.

* `Table.getElem?_insertMany` — adding entries to a table hides those below, and of two
  entries for one key the later wins.
* `Context.Shows.push` — if an environment shows a context, then inside a scope the
  extended environment shows the context with that scope in it.
-/

namespace TypingSession

/-! ## The entries of a scope -/

namespace Scope

/-- The names that a scope adds. -/
def addedNames : Scope → List (FullName × NameEntry)
  | names bindings => bindings
  | localVariables module bindings => localNames module bindings
  | types _ | localTypeVariables _ _ | dictionaries _ => []

/-- The type names that a scope adds. -/
def addedTypes : Scope → List (FullName × TypeEntry)
  | types bindings => bindings
  | localTypeVariables module bindings => localTypes module bindings
  | names _ | localVariables _ _ | dictionaries _ => []

/-- The dictionaries that a scope adds. -/
def addedDictionaries : Scope → List Dictionary
  | dictionaries entries => entries
  | names _ | localVariables _ _ | types _ | localTypeVariables _ _ => []

theorem extend_eq (added : Scope) (e : Environment) :
    added.extend e = ⟨e.names.insertMany added.addedNames, e.types.insertMany added.addedTypes,
      added.addedDictionaries ++ e.dictionaries⟩ := by
  -- nothing is added to the two fields that a scope is not about
  cases added <;>
    simp only [extend, addedNames, addedTypes, addedDictionaries, Std.ExtTreeMap.insertMany_nil,
      List.nil_append]

end Scope

theorem Field.restore_extend (added : Scope) (e : Environment) :
    added.field.restore e (added.extend e) = e := by
  cases added <;> rfl

/-! ## Looking up in nested binders -/

/-- What is known of a key inside of binders, the innermost first: the entry of the first
of them that has one, the last if it has several, and that of the table if none has. -/
def innermost {α : Type} (binders : List (List (FullName × α))) (outside : Table α)
    (key : FullName) : Option α :=
  (binders.findSome? fun bindings => bindings.reverse.lookup key).or outside[key]?

theorem innermost_cons {α : Type} (bindings : List (FullName × α))
    (binders : List (List (FullName × α))) (outside : Table α) (key : FullName) :
    innermost (bindings :: binders) outside key =
      (bindings.reverse.lookup key).or (innermost binders outside key) := by
  unfold innermost
  rw [List.findSome?_cons]
  cases bindings.reverse.lookup key <;> rfl

theorem Table.getElem?_insertMany {α : Type} (t : Table α) (bindings : List (FullName × α))
    (key : FullName) :
    (t.insertMany bindings)[key]? = (bindings.reverse.lookup key).or t[key]? := by
  rw [Std.ExtTreeMap.getElem?_insertMany_list, List.findSomeRev?_eq_findSome?_reverse,
    List.lookup_eq_findSome?]
  -- the table compares by its order, the list by equality
  have hcompare : ∀ key' : FullName, compare key' key = .eq ↔ (key == key') = true := by
    intro key'
    rw [Std.LawfulEqCmp.compare_eq_iff_eq, beq_iff_eq, eq_comm]
  simp only [hcompare]

/-! ## Contexts -/

/-- Where a command of a program stands. -/
structure Context where
  /-- The scopes around it, the innermost first. -/
  scopes : List Scope
  /-- What is known outside of all of them. -/
  outside : Environment

namespace Context

/-- The context inside of one more scope. -/
def push (c : Context) (added : Scope) : Context := { c with scopes := added :: c.scopes }

/-- What is known of a name. -/
def name? (c : Context) (key : FullName) : Option NameEntry :=
  innermost (c.scopes.map Scope.addedNames) c.outside.names key

/-- What is known of a type name. -/
def type? (c : Context) (key : FullName) : Option TypeEntry :=
  innermost (c.scopes.map Scope.addedTypes) c.outside.types key

/-- The dictionaries of the scopes, the innermost scope first, and then those outside. -/
def dictionaries (c : Context) : List Dictionary :=
  c.scopes.flatMap Scope.addedDictionaries ++ c.outside.dictionaries

/-- Looking up in an environment is looking up in a context. -/
structure Shows (c : Context) (e : Environment) : Prop where
  names_eq : ∀ key, e.names[key]? = c.name? key
  types_eq : ∀ key, e.types[key]? = c.type? key
  dictionaries_eq : e.dictionaries = c.dictionaries

/-- Outside of all scopes there is only the environment. -/
theorem shows_outside (e : Environment) : Shows ⟨[], e⟩ e where
  names_eq _ := rfl
  types_eq _ := rfl
  dictionaries_eq := rfl

theorem Shows.push {c : Context} {e : Environment} (h : c.Shows e) (added : Scope) :
    (c.push added).Shows (added.extend e) := by
  rw [added.extend_eq e]
  constructor
  · intro key
    show (e.names.insertMany added.addedNames)[key]? =
      innermost (added.addedNames :: c.scopes.map Scope.addedNames) c.outside.names key
    rw [Table.getElem?_insertMany, innermost_cons, h.names_eq key]
    rfl
  · intro key
    show (e.types.insertMany added.addedTypes)[key]? =
      innermost (added.addedTypes :: c.scopes.map Scope.addedTypes) c.outside.types key
    rw [Table.getElem?_insertMany, innermost_cons, h.types_eq key]
    rfl
  · show added.addedDictionaries ++ e.dictionaries =
      added.addedDictionaries ++ c.scopes.flatMap Scope.addedDictionaries ++ c.outside.dictionaries
    rw [h.dictionaries_eq, List.append_assoc]
    rfl

end Context

end TypingSession
