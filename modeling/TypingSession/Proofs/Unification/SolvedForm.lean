import TypingSession.Unification.Substitution

/-!
# TypingSession — solved form

A substitution is in *solved form* when no unknown that it binds occurs in a
term that it binds. Applying it is then final: what comes out holds no bound
unknown, and a second application changes nothing.

Solving composes a substitution with a single binding. The main lemmas say what
becomes of solved form and of application under a composition:

* `SolvedForm.apply_apply` — application is idempotent in solved form.
* `SolvedForm.compose` — solved form is kept when the terms of the second substitution
  hold no unknown that the first one binds.
* `apply_single_absorbed` — a substitution under which an unknown and a term
  agree does not notice a binding of the one to the other.
-/

namespace TypingSession

variable {α : Type} [HasUnknowns α]

theorem mem_unknowns {t : α} {u : Nat} : u ∈ unknowns t ↔ u ∈ occurrences t := by
  unfold unknowns
  exact List.mem_eraseDups

namespace Substitution

/-- No unknown that is bound occurs in a term that is bound. -/
def SolvedForm (s : Substitution α) : Prop :=
  ∀ u t, s.get? u = some t → ∀ v ∈ unknowns t, s.get? v = none

/-- No unknown that `s` binds occurs in a term that `t` binds. -/
def Avoids (t s : Substitution α) : Prop :=
  ∀ u x, t.get? u = some x → ∀ v ∈ unknowns x, s.get? v = none

theorem solvedForm_empty : (∅ : Substitution α).SolvedForm := by
  intro u t h
  rw [get?_empty] at h
  exact absurd h (by simp)

theorem image_eq_of_get? {s : Substitution α} {u : Nat} {t : α} (h : s.get? u = some t) :
    s.image u = t := by
  rw [image, h, Option.getD_some]

theorem image_eq_ofUnknown {s : Substitution α} {u : Nat} (h : s.get? u = none) :
    s.image u = ofUnknown u := by
  rw [image, h, Option.getD_none]

theorem image_single_self (v : Nat) (x : α) : (single v x).image v = x :=
  image_eq_of_get? (by rw [get?_single, if_pos rfl])

theorem image_single_of_ne {v w : Nat} (h : v ≠ w) (x : α) :
    (single v x).image w = ofUnknown w :=
  image_eq_ofUnknown (by rw [get?_single, if_neg h])

/-! ## Single bindings, and the bindings of a composition -/

section Bindings

variable {s : Substitution α} {v : Nat} {x : α}

theorem get?_compose_eq_none {t : Substitution α} {w : Nat} :
    (s.compose t).get? w = none ↔ s.get? w = none ∧ t.get? w = none := by
  rw [get?_compose, Option.or_eq_none_iff, Option.map_eq_none_iff]

theorem get?_compose_single_eq_none {w : Nat} :
    (s.compose (single v x)).get? w = none ↔ w ≠ v ∧ s.get? w = none := by
  rw [get?_compose_eq_none, get?_single]
  by_cases h : v = w
  · simp [h]
  · simp [h, Ne.symm h]

theorem size_compose_single (hv : s.get? v = none) :
    (s.compose (single v x)).size = s.size + 1 := by
  -- the old bindings are rewritten, which keeps their number, and one is inserted
  have hbindings : (s.compose (single v x)).bindings =
      (s.bindings.map fun _ t => (single v x).apply t).insert v x := by
    apply Std.ExtTreeMap.ext_getElem?
    intro w
    have hcompose := get?_compose s (single v x) w
    unfold get? at hcompose hv
    rw [hcompose, Std.ExtTreeMap.getElem?_insert, Std.ExtTreeMap.getElem?_map]
    by_cases hw : v = w
    · subst hw
      simp [hv, single]
    · simp [hw, single]
  have hnew : ¬ v ∈ s.bindings.map fun _ t => (single v x).apply t := by
    unfold get? at hv
    rw [Std.ExtTreeMap.mem_iff_isSome_getElem?, Std.ExtTreeMap.getElem?_map, hv]
    simp
  unfold size
  rw [hbindings, Std.ExtTreeMap.size_insert, Std.ExtTreeMap.size_map]
  exact if_neg hnew

theorem solvedForm_single (hx : v ∉ unknowns x) : (single v x).SolvedForm := by
  intro u t hu w hw
  obtain ⟨rfl, rfl⟩ := get?_single_eq_some.mp hu
  rw [get?_single, if_neg]
  rintro rfl
  exact hx hw

theorem avoids_single (hx : ∀ w ∈ unknowns x, s.get? w = none) : (single v x).Avoids s := by
  intro u t hu w hw
  obtain ⟨rfl, rfl⟩ := get?_single_eq_some.mp hu
  exact hx w hw

end Bindings

variable [LawfulHasUnknowns α]

/-! ## Application -/

theorem apply_ofUnknown (s : Substitution α) (u : Nat) : s.apply (ofUnknown u) = s.image u := by
  rw [apply_eq_replace, LawfulHasUnknowns.replace_ofUnknown]

theorem apply_compose_eq (s next : Substitution α) (t : α) :
    (s.compose next).apply t = next.apply (s.apply t) := by
  have himage : (s.compose next).image = fun u => replace next.image (s.image u) := by
    funext u
    exact image_compose s next u
  rw [apply_eq_replace, apply_eq_replace next, apply_eq_replace s,
    LawfulHasUnknowns.replace_replace, himage]

theorem mem_unknowns_ofUnknown {u v : Nat} : v ∈ unknowns (ofUnknown u : α) ↔ v = u := by
  rw [mem_unknowns, LawfulHasUnknowns.occurrences_ofUnknown, List.mem_singleton]

/-- An unknown that becomes another one is bound to it. -/
theorem get?_of_apply_ofUnknown_ne {s : Substitution α} {u v : Nat}
    (h : s.apply (ofUnknown u) = ofUnknown v) (hne : v ≠ u) : s.get? u = some (ofUnknown v) := by
  rw [apply_ofUnknown] at h
  cases hget : s.get? u with
  | some t => rw [← h, image_eq_of_get? hget]
  | none =>
    -- it would stand for itself, and hold the other one
    rw [image_eq_ofUnknown hget] at h
    have hmem : v ∈ unknowns (ofUnknown u : α) := by rw [h, mem_unknowns_ofUnknown]
    exact absurd (mem_unknowns_ofUnknown.mp hmem) hne

/-- The unknowns of a result come from the images of the unknowns of the term. -/
theorem mem_unknowns_apply {s : Substitution α} {t : α} {v : Nat} :
    v ∈ unknowns (s.apply t) ↔ ∃ u ∈ unknowns t, v ∈ unknowns (s.image u) := by
  simp only [mem_unknowns, apply_eq_replace, LawfulHasUnknowns.occurrences_replace,
    List.mem_flatMap]

/-- An unknown of a result has come in with a bound term, or is unbound and was there
before. -/
theorem mem_unknowns_apply_cases {s : Substitution α} {t : α} {v : Nat}
    (hv : v ∈ unknowns (s.apply t)) :
    (∃ u b, s.get? u = some b ∧ v ∈ unknowns b) ∨ (v ∈ unknowns t ∧ s.get? v = none) := by
  obtain ⟨u, hu, hvu⟩ := mem_unknowns_apply.mp hv
  cases hget : s.get? u with
  | some b =>
    rw [image_eq_of_get? hget] at hvu
    exact Or.inl ⟨u, b, hget, hvu⟩
  | none =>
    rw [image_eq_ofUnknown hget, mem_unknowns_ofUnknown] at hvu
    rw [hvu]
    exact Or.inr ⟨hu, hget⟩

/-- Application leaves a term alone when it leaves its unknowns alone. -/
theorem apply_eq_self {s : Substitution α} {t : α}
    (h : ∀ u ∈ unknowns t, s.image u = ofUnknown u) : s.apply t = t := by
  calc s.apply t = replace ofUnknown t :=
        LawfulHasUnknowns.replace_eq_replace_iff.mpr fun u hu => h u (mem_unknowns.mpr hu)
    _ = t := LawfulHasUnknowns.replace_self t

theorem apply_empty (t : α) : (∅ : Substitution α).apply t = t :=
  apply_eq_self fun u _ => image_eq_ofUnknown (get?_empty u)

/-! ## Application in solved form -/

namespace SolvedForm

variable {s : Substitution α}

/-- What comes out of a substitution in solved form holds no bound unknown. -/
theorem get?_eq_none_of_mem (h : s.SolvedForm) {t : α} {v : Nat}
    (hv : v ∈ unknowns (s.apply t)) : s.get? v = none := by
  rcases mem_unknowns_apply_cases hv with ⟨u, b, hu, hvb⟩ | ⟨-, hnone⟩
  · -- it occurs in a bound term, so it is not bound itself
    exact h u b hu v hvb
  · exact hnone

theorem apply_apply (h : s.SolvedForm) (t : α) : s.apply (s.apply t) = s.apply t :=
  apply_eq_self fun _ hu => image_eq_ofUnknown (h.get?_eq_none_of_mem hu)

end SolvedForm

/-! ## Solved form of a composition -/

section Compose

variable {s t : Substitution α}

/-- Solved form is kept when nothing that is bound comes in again with the new terms. -/
theorem SolvedForm.compose (hs : s.SolvedForm) (ht : t.SolvedForm) (h : t.Avoids s) :
    (s.compose t).SolvedForm := by
  intro u x hu v hv
  rw [get?_compose_eq_none]
  rw [get?_compose, Option.or_eq_some_iff, Option.map_eq_some_iff] at hu
  rcases hu with ⟨b, hb, rfl⟩ | ⟨-, hx⟩
  · -- an old binding, rewritten by the new ones
    refine ⟨?_, ht.get?_eq_none_of_mem hv⟩
    rcases mem_unknowns_apply_cases hv with ⟨w, c, hw, hvc⟩ | ⟨hvb, -⟩
    · exact h w c hw v hvc
    · exact hs u b hb v hvb
  · exact ⟨h u x hx v hv, ht u x hx v hv⟩

end Compose

/-! ## Application and solved form under a single binding -/

section Single

variable {s : Substitution α} {v : Nat} {x : α}

theorem apply_single_of_notMem {t : α} (h : v ∉ unknowns t) : (single v x).apply t = t := by
  apply apply_eq_self
  intro u hu
  apply image_single_of_ne
  rintro rfl
  exact h hu

/-- A substitution under which an unknown and a term agree absorbs the binding of
the one to the other. -/
theorem apply_single_absorbed (h : s.image v = s.apply x) (t : α) :
    s.apply ((single v x).apply t) = s.apply t := by
  rw [← apply_compose_eq, apply_eq_replace, apply_eq_replace,
    LawfulHasUnknowns.replace_eq_replace_iff]
  intro w _
  rw [image_compose]
  by_cases hw : v = w
  · subst hw
    rw [image_single_self, h]
  · rw [image_single_of_ne hw, apply_ofUnknown]

/-- The unknowns of a term after a binding: the bound unknown has gone, if it does
not occur in its term, and the unknowns of its term may have come in. -/
theorem mem_unknowns_apply_single {t : α} {w : Nat} (hx : v ∉ unknowns x)
    (hw : w ∈ unknowns ((single v x).apply t)) : w ≠ v ∧ (w ∈ unknowns t ∨ w ∈ unknowns x) := by
  obtain ⟨u, hu, hwu⟩ := mem_unknowns_apply.mp hw
  by_cases hvu : v = u
  · -- it has come in with the new term
    subst hvu
    rw [image_single_self] at hwu
    refine ⟨?_, Or.inr hwu⟩
    rintro rfl
    exact hx hwu
  · rw [image_single_of_ne hvu, mem_unknowns_ofUnknown] at hwu
    subst hwu
    exact ⟨fun h => hvu h.symm, Or.inl hu⟩

/-- Solved form is kept when an unknown is bound to a term that holds neither a bound
unknown nor itself. -/
theorem SolvedForm.compose_single (h : s.SolvedForm) (hx : ∀ w ∈ unknowns x, s.get? w = none)
    (hocc : v ∉ unknowns x) : (s.compose (single v x)).SolvedForm :=
  h.compose (solvedForm_single hocc) (avoids_single hx)

end Single

end Substitution

end TypingSession
