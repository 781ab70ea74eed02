import TypingSession.Proofs.Unification.SolvedForm
import TypingSession.Unification.Level

/-!
# TypingSession — idempotent substitutions

Applying a substitution twice is the same as applying it once exactly when every unknown in
a bound term stands for itself: it is unbound, or it is bound to itself
(`apply_apply_iff`). Solved form asks a little more, and rules the second case out.

Solved form is kept by composition if no term of the second substitution holds an unknown
that the first one binds. So it is kept by a chain of compositions in which every
substitution avoids all those in front of it.

* `image_eq_ofUnknown_iff`, `apply_eq_self_iff` — when an unknown, and when a term, is left
  alone.
* `solvedForm_chain` — solved form of a chain.
* `idempotent_iff_and_chains` — the criterion, a composition of two, and chains of any
  length.
-/

namespace TypingSession.Substitution

variable {α : Type} [HasUnknowns α]

/-! ## What a chain binds -/

section Chains

variable {s t r : Substitution α} {chain : List (Substitution α)}

theorem avoids_compose : r.Avoids (s.compose t) ↔ r.Avoids s ∧ r.Avoids t := by
  simp only [Avoids, get?_compose_eq_none, forall_and]

/-- A chain binds what its members bind. -/
theorem get?_foldl_compose_eq_none {u : Nat} :
    (chain.foldl compose s).get? u = none ↔ s.get? u = none ∧ ∀ t ∈ chain, t.get? u = none := by
  induction chain generalizing s with
  | nil => simp
  | cons t rest ih =>
    rw [List.foldl_cons, ih, get?_compose_eq_none, List.forall_mem_cons, and_assoc]

end Chains

/-! ## What is left alone -/

/-- An unknown stands for itself if it is unbound, or bound to itself. -/
theorem image_eq_ofUnknown_iff {s : Substitution α} {u : Nat} :
    s.image u = ofUnknown u ↔ s.get? u = none ∨ s.get? u = some (ofUnknown u) := by
  cases h : s.get? u with
  | none => simp [image_eq_ofUnknown h]
  | some t => simp [image_eq_of_get? h]

variable [LawfulHasUnknowns α] {s : Substitution α} {chain : List (Substitution α)}

theorem apply_eq_self_iff {t : α} :
    s.apply t = t ↔ ∀ u ∈ unknowns t, s.image u = ofUnknown u := by
  constructor
  · intro h u hu
    -- a term that comes out as it is has each of its unknowns replaced by itself
    have hself : replace s.image t = replace ofUnknown t :=
      h.trans (LawfulHasUnknowns.replace_self t).symm
    exact LawfulHasUnknowns.replace_eq_replace_iff.mp hself u (mem_unknowns.mp hu)
  · exact apply_eq_self

/-- A second application changes nothing if all unknowns that can come out of the first stand
for themselves. These are the unknowns of the bound terms, and unbound ones. -/
theorem apply_apply_iff :
    (∀ x, s.apply (s.apply x) = s.apply x) ↔
      ∀ u t, s.get? u = some t → ∀ v ∈ unknowns t,
        s.get? v = none ∨ s.get? v = some (ofUnknown v) := by
  simp only [apply_eq_self_iff, image_eq_ofUnknown_iff]
  constructor
  · intro h u t hu v hv
    -- a bound term is what comes out of its unknown
    apply h (ofUnknown u)
    rwa [apply_ofUnknown, image_eq_of_get? hu]
  · intro h x v hv
    rcases mem_unknowns_apply_cases hv with ⟨u, t, hu, hvt⟩ | ⟨-, hnone⟩
    · exact h u t hu v hvt
    · exact Or.inl hnone

/-! ## Solved form of a chain -/

/-- By induction on the chain: what has been composed so far is in solved form, and is
avoided by all that is still to come. -/
theorem solvedForm_chain (hs : s.SolvedForm) (hsolved : ∀ t ∈ chain, t.SolvedForm)
    (hstart : ∀ t ∈ chain, t.Avoids s) (havoids : chain.Pairwise fun s t => t.Avoids s) :
    (chain.foldl compose s).SolvedForm := by
  induction chain generalizing s with
  | nil => exact hs
  | cons t rest ih =>
    rw [List.forall_mem_cons] at hsolved hstart
    rw [List.pairwise_cons] at havoids
    -- the rest goes on from the composition with the first member
    apply ih (hs.compose hsolved.1 hstart.1) hsolved.2
    · intro r hr
      exact avoids_compose.mpr ⟨hstart.2 r hr, havoids.1 r hr⟩
    · exact havoids.2

/-- **When a substitution is idempotent.** It is so exactly when every unknown in a bound term
is unbound or bound to itself. If two substitutions bind no unknown of their own terms, and
the first binds no unknown in a term of the second, then their composition binds no unknown
of its terms either. So a chain of such substitutions, of any length, is idempotent, and its
results hold no unknown that any of them binds. This holds of types and of kinds. -/
theorem idempotent_iff_and_chains (level : Level) :
    (∀ s : Substitution level.Term,
      (∀ x, s.apply (s.apply x) = s.apply x) ↔
        ∀ u t, s.get? u = some t → ∀ v ∈ unknowns t,
          s.get? v = none ∨ s.get? v = some (ofUnknown v)) ∧
    (∀ s t : Substitution level.Term, s.SolvedForm → t.SolvedForm → t.Avoids s →
      (s.compose t).SolvedForm) ∧
    ∀ chain : List (Substitution level.Term), (∀ s ∈ chain, s.SolvedForm) →
      (chain.Pairwise fun s t => t.Avoids s) →
      let whole := chain.foldl compose ∅
      whole.SolvedForm ∧ (∀ x, whole.apply (whole.apply x) = whole.apply x) ∧
        ∀ x, ∀ u ∈ unknowns (whole.apply x), ∀ s ∈ chain, s.get? u = none := by
  refine ⟨fun s => apply_apply_iff, fun s t hs ht h => hs.compose ht h, ?_⟩
  intro chain hsolved havoids whole
  have hwhole : whole.SolvedForm := by
    apply solvedForm_chain solvedForm_empty hsolved _ havoids
    -- nothing is bound at the start
    intro t _ u x _ v _
    exact get?_empty v
  refine ⟨hwhole, hwhole.apply_apply, ?_⟩
  -- what comes out is unbound in the whole, and so in every member
  intro x u hu
  have hunbound : whole.get? u = none := hwhole.get?_eq_none_of_mem hu
  exact (get?_foldl_compose_eq_none.mp hunbound).2

/-- Three substitutions in a row, the second of them with an unknown that the third binds.
Then two that are not in solved form: one binds an unknown to itself and is idempotent all
the same, the other binds an unknown to a row of itself and is not. -/
theorem chain_idempotent :
    let chain : List (Substitution Ty) := [single 0 (.prim "Number"),
      single 1 (.function (.unknown 2) (.var "a")), single 2 (.prim "String")]
    let whole := chain.foldl compose ∅
    let t := Ty.function (.unknown 1) (.app (.unknown 3) (.unknown 0))
    let itself : Substitution Kind := single 0 (.unknown 0)
    let inside : Substitution Kind := single 0 (.row (.unknown 0))
    whole.SolvedForm ∧ unknowns (whole.apply t) = [3] ∧
      (∀ u ∈ unknowns (whole.apply t), ∀ s ∈ chain, s.get? u = none) ∧
      (∀ x, itself.apply (itself.apply x) = itself.apply x) ∧
      ¬ ∀ x, inside.apply (inside.apply x) = inside.apply x := by
  intro chain whole t itself inside
  obtain ⟨-, -, hchains⟩ := idempotent_iff_and_chains .type
  obtain ⟨hiff, -, -⟩ := idempotent_iff_and_chains .kind
  have hsolved : ∀ s ∈ chain, s.SolvedForm := by
    simp only [chain, List.forall_mem_cons]
    refine ⟨solvedForm_single ?_, solvedForm_single ?_, solvedForm_single ?_, by simp⟩
    all_goals decide
  have havoids : chain.Pairwise fun s t => t.Avoids s := by
    simp only [chain, List.pairwise_cons, List.forall_mem_cons]
    refine ⟨⟨avoids_single ?_, avoids_single ?_, by simp⟩, ⟨avoids_single ?_, by simp⟩, by simp⟩
    all_goals decide
  obtain ⟨hwhole, -, hresults⟩ := hchains chain hsolved havoids
  refine ⟨hwhole, by decide, hresults t, (hiff itself).mpr ?_, fun h => ?_⟩
  · intro u x hu v hv
    obtain ⟨rfl, rfl⟩ := get?_single_eq_some.mp hu
    obtain rfl := mem_unknowns_ofUnknown.mp hv
    exact Or.inr hu
  · have hzero := (hiff inside).mp h 0 (.row (.unknown 0)) (by decide) 0 (by decide)
    exact absurd hzero (by decide)

end TypingSession.Substitution
