import TypingSession.Unification.Term
import Std.Data.ExtTreeMap

/-!
# TypingSession — substitutions

A substitution gives terms to finitely many unknowns. Applying it replaces each
unknown that has a term by that term, once: the terms put in are not searched
again. Composition makes one substitution of two.

* `apply_eq_replace` — application is replacement by `image`.
* `image_compose` — the image of an unknown under a composition.
-/

namespace TypingSession

/-- Terms for finitely many unknowns. -/
structure Substitution (α : Type) where
  /-- The bindings, in the order of the unknowns. -/
  bindings : Std.ExtTreeMap Nat α

namespace Substitution

variable {α : Type}

instance [DecidableEq α] : DecidableEq (Substitution α)
  | ⟨a⟩, ⟨b⟩ => decidable_of_iff (a = b) (by simp)

/-- The substitution that binds nothing. -/
def empty : Substitution α := ⟨∅⟩

instance : EmptyCollection (Substitution α) := ⟨empty⟩

instance : Inhabited (Substitution α) := ⟨∅⟩

/-- The substitution that binds one unknown. -/
def single (u : Nat) (t : α) : Substitution α := ⟨(∅ : Std.ExtTreeMap Nat α).insert u t⟩

/-- The term of an unknown, if it is bound. -/
def get? (s : Substitution α) (u : Nat) : Option α := s.bindings[u]?

/-- The number of unknowns that are bound. -/
def size (s : Substitution α) : Nat := s.bindings.size

/-- The bindings in ascending order of the unknowns. -/
def toList (s : Substitution α) : List (Nat × α) := s.bindings.toList

/-! ## The bindings as a map -/

@[ext] theorem ext_get? {s t : Substitution α} (h : ∀ u, s.get? u = t.get? u) : s = t := by
  cases s; cases t
  exact congrArg mk (Std.ExtTreeMap.ext_getElem? h)

@[simp] theorem get?_empty (u : Nat) : (∅ : Substitution α).get? u = none :=
  Std.ExtTreeMap.getElem?_empty

theorem get?_single (u v : Nat) (t : α) :
    (single u t).get? v = if u = v then some t else none := by
  simp [single, get?, Std.ExtTreeMap.getElem?_insert]

theorem get?_single_eq_some {u v : Nat} {t x : α} :
    (single u t).get? v = some x ↔ u = v ∧ t = x := by
  rw [get?_single]
  split <;> simp_all

/-! ## Application and composition -/

variable [HasUnknowns α]

/-- What an unknown becomes: its term if it is bound, and itself otherwise. -/
def image (s : Substitution α) (u : Nat) : α := (s.get? u).getD (ofUnknown u)

/-- A term with each bound unknown replaced by its term. -/
def apply (s : Substitution α) (t : α) : α := replace s.image t

/-- The effect of one substitution and then another, in one: the second is applied
to the terms of the first, and its own bindings come in where the first has none. -/
def compose (s next : Substitution α) : Substitution α :=
  ⟨next.bindings ∪ s.bindings.map fun _ t => next.apply t⟩

@[simp] theorem get?_compose (s next : Substitution α) (u : Nat) :
    (s.compose next).get? u = ((s.get? u).map next.apply).or (next.get? u) := by
  simp [compose, get?, Std.ExtTreeMap.getElem?_union, Std.ExtTreeMap.getElem?_map]

theorem apply_eq_replace (s : Substitution α) (t : α) : s.apply t = replace s.image t := rfl

theorem image_compose [LawfulHasUnknowns α] (s next : Substitution α) (u : Nat) :
    (s.compose next).image u = next.apply (s.image u) := by
  cases h : s.get? u with
  | some t => simp [image, h]
  | none => simp [image, h, apply, LawfulHasUnknowns.replace_ofUnknown]

end Substitution

end TypingSession
