import TypingSession.Proofs.Unification.SolvedForm
import TypingSession.Unification.Level

/-!
# TypingSession — composition of substitutions

Composition makes one substitution of two: it rewrites the terms of the first by the
second, and takes from the second what the first does not bind. Its effect is that of the
two, one after the other (`apply_compose_eq`). Nothing is asked of the bindings for this.
Unknowns may be bound to terms that hold them, or to one another in a circle.

* `compose_assoc`, `empty_compose`, `compose_empty` — the laws of composition, for the
  bindings themselves and not only for their effect.
* `composition_laws` — all of them, for types and for kinds.
-/

namespace TypingSession.Substitution

variable {α : Type} [HasUnknowns α]

theorem empty_compose (s : Substitution α) : (∅ : Substitution α).compose s = s := by
  ext u : 1
  rw [get?_compose, get?_empty, Option.map_none, Option.none_or]

variable [LawfulHasUnknowns α]

theorem compose_empty (s : Substitution α) : s.compose ∅ = s := by
  ext u : 1
  have hsame : (∅ : Substitution α).apply = id := funext apply_empty
  rw [get?_compose, get?_empty, Option.or_none, hsame, Option.map_id, id]

/-- Whichever of the three binds an unknown first, the others rewrite its term. -/
theorem compose_assoc (s t r : Substitution α) :
    (s.compose t).compose r = s.compose (t.compose r) := by
  ext u : 1
  simp only [get?_compose]
  -- a term of the first is rewritten twice on the left, and once by both on the right
  cases s.get? u with
  | some x => simp only [Option.map_some, Option.some_or, apply_compose_eq]
  | none => simp only [Option.map_none, Option.none_or]

/-- **Substitutions are a monoid that acts on terms.** Composition has the effect of one
substitution and then the other, on every term. It is associative, and the empty
substitution is neutral on both sides: the two sides of these laws have the same bindings.
This holds of all substitutions of types and of all substitutions of kinds. -/
theorem composition_laws (level : Level) (s t r : Substitution level.Term) :
    (∀ x, (s.compose t).apply x = t.apply (s.apply x)) ∧
      (s.compose t).compose r = s.compose (t.compose r) ∧
      (∅ : Substitution level.Term).compose s = s ∧ s.compose ∅ = s := by
  refine ⟨?_, compose_assoc s t r, empty_compose s, compose_empty s⟩
  intro x
  exact apply_compose_eq s t x

/-- Two bindings in a circle: in their composition an unknown is bound to a term with itself
inside. A third substitution solves one of the two by a kind and binds another unknown to
itself. It makes no difference which two of the three are composed first. -/
theorem circle_laws :
    let outer : Substitution Kind := single 0 (.row (.unknown 1))
    let back : Substitution Kind := single 1 (.unknown 0)
    let solved : Substitution Kind := (single 0 .star).compose (single 2 (.unknown 2))
    let all : List (Nat × Kind) := [(0, .row .star), (1, .star), (2, .unknown 2)]
    let x : Kind := .function (.unknown 0) (.unknown 1)
    (outer.compose back).toList = [(0, .row (.unknown 0)), (1, .unknown 0)] ∧
      outer.apply x = .function (.row (.unknown 1)) (.unknown 1) ∧
      (outer.compose back).apply x = .function (.row (.unknown 0)) (.unknown 0) ∧
      ((outer.compose back).compose solved).toList = all ∧
      (outer.compose (back.compose solved)).toList = all ∧
      ((∅ : Substitution Kind).compose outer).get? 0 = some (.row (.unknown 1)) ∧
      (outer.compose ∅).get? 1 = none := by
  intro outer back solved all x
  obtain ⟨happly, hassoc, hempty, hnothing⟩ := composition_laws .kind outer back solved
  have hall : ((outer.compose back).compose solved).toList = all := by decide
  refine ⟨by decide, by decide, (happly x).trans (by decide), hall, ?_, ?_, ?_⟩
  · rw [← hassoc]
    exact hall
  · rw [hempty]
    decide
  · rw [hnothing]
    decide

end TypingSession.Substitution
