import Mathlib.Data.List.Induction
import TypingSession.Proofs.Unification.SolvedForm
import TypingSession.Unification.Level

/-!
# TypingSession — the unknowns of a term

The unknowns of a term are its support: what a substitution makes of the term depends on what
becomes of them, and on nothing else. They are listed once each, in the order in which they
first occur, and this order survives a substitution.

Two things can be said of the list without the left-to-right list of all occurrences that it
is made from. A term is a tree, and an unknown occurs in it at *places*: the ways down from
the whole term to the unknown, compared from the left. And the list can be collected in a
single pass over the term that carries along what it has found and adds what is new.

* `mem_occurrences_iff_place`, `comesBefore_of_precedes` — occurrences by their places.
* `collect_eq` — what the single pass collects, whatever it has found before.
* `eraseDups_flatMap` — repetitions can be left out before or after, with the same result.
* `unknowns_support` — the support of a term.
-/

namespace TypingSession

/-! ## Lists without repetitions -/

section Lists

variable {l m : List Nat} {u v : Nat}

/-- A member of a list stands in front of all places of another number. -/
def Precedes (l : List Nat) (u v : Nat) : Prop := u ∈ l ∧ l.idxOf u < l.idxOf v

theorem precedes_append :
    Precedes (l ++ m) u v ↔ Precedes l u v ∨ (u ∉ l ∧ v ∉ l ∧ Precedes m u v) := by
  -- what is not in a list has its length for an index
  have hlength (w : Nat) (hw : w ∈ l) : l.idxOf w < l.length := List.idxOf_lt_length_of_mem hw
  have hnone (w : Nat) (hw : w ∉ l) : l.idxOf w = l.length := List.idxOf_eq_length hw
  unfold Precedes
  grind

theorem eraseDups_concat (l : List Nat) (u : Nat) :
    (l ++ [u]).eraseDups = if u ∈ l then l.eraseDups else l.eraseDups ++ [u] := by
  rw [List.eraseDups_append]
  by_cases h : u ∈ l <;> simp [List.removeAll, h, List.eraseDups_cons]

/-- By induction from the end: a number that is new comes behind all that are there. -/
theorem pairwise_eraseDups (l : List Nat) : l.eraseDups.Pairwise (Precedes l) := by
  induction l using List.reverseRecOn with
  | nil => simp
  | append_singleton l w ih =>
    have hold : l.eraseDups.Pairwise (Precedes (l ++ [w])) :=
      ih.imp fun h => precedes_append.mpr (Or.inl h)
    rw [eraseDups_concat]
    by_cases hw : w ∈ l
    · rwa [if_pos hw]
    rw [if_neg hw, List.pairwise_append]
    refine ⟨hold, List.pairwise_singleton _ _, fun u hu v hv => ?_⟩
    rw [List.mem_eraseDups] at hu
    rw [List.mem_singleton] at hv
    subst hv
    refine precedes_append.mpr (Or.inl ⟨hu, ?_⟩)
    rw [List.idxOf_eq_length hw]
    exact List.idxOf_lt_length_of_mem hu

theorem nodup_eraseDups (l : List Nat) : l.eraseDups.Nodup := by
  refine (pairwise_eraseDups l).imp fun h heq => ?_
  rw [heq] at h
  exact Nat.lt_irrefl _ h.2

theorem eraseDups_filter (p : Nat → Bool) (l : List Nat) :
    (l.filter p).eraseDups = l.eraseDups.filter p := by
  induction l using List.reverseRecOn with
  | nil => rfl
  | append_singleton l w ih =>
    rw [List.filter_append, eraseDups_concat]
    by_cases hp : p w = true
    · by_cases hw : w ∈ l <;> simp [eraseDups_concat, hp, hw, ih]
    · by_cases hw : w ∈ l <;> simp [hp, hw, ih]

theorem eraseDups_eraseDups (l : List Nat) : l.eraseDups.eraseDups = l.eraseDups := by
  induction l using List.reverseRecOn with
  | nil => rfl
  | append_singleton l w ih =>
    rw [eraseDups_concat]
    by_cases hw : w ∈ l
    · rw [if_pos hw, ih]
    · have hnew : w ∉ l.eraseDups := by rwa [List.mem_eraseDups]
      rw [if_neg hw, eraseDups_concat, if_neg hnew, ih]

/-- Behind some numbers, those of them that come again are left out. -/
theorem eraseDups_append (l m : List Nat) :
    (l ++ m).eraseDups = l.eraseDups ++ m.eraseDups.filter (· ∉ l) := by
  have hremove : m.removeAll l = m.filter (· ∉ l) := List.filter_congr (by simp)
  rw [List.eraseDups_append, hremove, eraseDups_filter]

/-- Repetitions can be left out of a list, and of what is put in for each of its members,
before the parts are put together. -/
theorem eraseDups_flatMap (f : Nat → List Nat) (l : List Nat) :
    (l.flatMap f).eraseDups = (l.eraseDups.flatMap fun u => (f u).eraseDups).eraseDups := by
  induction l using List.reverseRecOn with
  | nil => rfl
  | append_singleton l w ih =>
    rw [List.flatMap_append, List.flatMap_singleton, eraseDups_append, eraseDups_concat]
    by_cases hw : w ∈ l
    · -- what is put in for the number is there already
      have hnone : (f w).eraseDups.filter (· ∉ l.flatMap f) = [] := by
        rw [List.filter_eq_nil_iff]
        intro v hv
        have hmem : v ∈ l.flatMap f := List.mem_flatMap.mpr ⟨w, hw, List.mem_eraseDups.mp hv⟩
        simpa using hmem
      rw [hnone, List.append_nil, if_pos hw, ih]
    · -- the number is new, and the same unknowns are there in front of it on both sides
      have hsame (v : Nat) :
          v ∈ l.flatMap f ↔ v ∈ l.eraseDups.flatMap fun u => (f u).eraseDups := by
        rw [← List.mem_eraseDups, ih, List.mem_eraseDups]
      rw [if_neg hw, List.flatMap_append, List.flatMap_singleton, eraseDups_append, ih,
        eraseDups_eraseDups]
      simp only [hsame]

end Lists

/-! ## A single pass -/

/-- Numbers that have been found, and one more if it is new. -/
def pushNew (found : List Nat) (u : Nat) : List Nat := if u ∈ found then found else found ++ [u]

/-- The unknowns that have been found, and those of a type that are new. -/
def Ty.collect : Ty → List Nat → List Nat
  | unknown u, found => pushNew found u
  | var _, found | con _, found => found
  | app a b, found | function a b, found => b.collect (a.collect found)
  | forAll _ body, found => body.collect found

/-- The unknowns that have been found, and those of a kind that are new. -/
def Kind.collect : Kind → List Nat → List Nat
  | unknown u, found => pushNew found u
  | star, found => found
  | row k, found => k.collect found
  | function a b, found => b.collect (a.collect found)

/-- The unknowns that have been found, and those of a term that are new. -/
def Level.collect : (level : Level) → level.Term → List Nat → List Nat
  | .type => Ty.collect
  | .kind => Kind.collect

theorem foldl_pushNew (l found : List Nat) :
    l.foldl pushNew found = found ++ l.eraseDups.filter (· ∉ found) := by
  induction l using List.reverseRecOn with
  | nil => simp
  | append_singleton l w ih =>
    rw [List.foldl_append, ih, eraseDups_concat]
    by_cases hw : w ∈ l <;> by_cases hfound : w ∈ found <;> simp [pushNew, hw, hfound]

theorem Ty.collect_eq_foldl (t : Ty) (found : List Nat) :
    t.collect found = t.occurrences.foldl pushNew found := by
  induction t generalizing found with
  | unknown _ | var _ | con _ => rfl
  | app a b iha ihb | function a b iha ihb =>
    rw [collect, occurrences, List.foldl_append, iha, ihb]
  | forAll v body ih => exact ih found

theorem Kind.collect_eq_foldl (k : Kind) (found : List Nat) :
    k.collect found = k.occurrences.foldl pushNew found := by
  induction k generalizing found with
  | unknown _ | star => rfl
  | row k ih => exact ih found
  | function a b iha ihb => rw [collect, occurrences, List.foldl_append, iha, ihb]

/-- What has been found stays in front, and the new unknowns follow in their order. -/
theorem Level.collect_eq (level : Level) (t : level.Term) (found : List Nat) :
    level.collect t found = found ++ (unknowns t).filter (· ∉ found) := by
  have hfold : level.collect t found = (occurrences t).foldl pushNew found := by
    cases level with
    | type => exact Ty.collect_eq_foldl t found
    | kind => exact Kind.collect_eq_foldl t found
  rw [hfold, foldl_pushNew, unknowns]

/-! ## Places -/

/-- The parts that a type is made of, from left to right. -/
def Ty.parts : Ty → List Ty
  | unknown _ | var _ | con _ => []
  | app a b | function a b => [a, b]
  | forAll _ body => [body]

/-- The parts that a kind is made of, from left to right. -/
def Kind.parts : Kind → List Kind
  | unknown _ | star => []
  | row k => [k]
  | function a b => [a, b]

/-- The parts that a term is made of, from left to right. -/
def Level.parts : (level : Level) → level.Term → List level.Term
  | .type => Ty.parts
  | .kind => Kind.parts

/-- What stands in a term at a place: the numbers say which part to enter, and which part of
that, and so on. -/
def subterm? {level : Level} (t : level.Term) : List Nat → Option level.Term
  | [] => some t
  | i :: place => (level.parts t)[i]?.bind fun part => subterm? part place

/-- An unknown stands in a term in front of all places of another. -/
def ComesBefore {level : Level} (t : level.Term) (u v : Nat) : Prop :=
  ∃ place, subterm? t place = some (ofUnknown u) ∧
    ∀ place', subterm? t place' = some (ofUnknown v) → place < place'

/-- A term is an unknown, or has the occurrences of its parts. -/
@[elab_as_elim]
theorem Level.inductionOnParts {level : Level} {motive : level.Term → Prop} (t : level.Term)
    (unknown : ∀ u, motive (ofUnknown u))
    (compound : ∀ t, occurrences t = (level.parts t).flatMap occurrences →
      (∀ part ∈ level.parts t, motive part) → motive t) : motive t := by
  -- the occurrences in each constructor are those of its parts by definition
  cases level with
  | type =>
    induction t with
    | unknown u => exact unknown u
    | var _ | con _ => exact compound _ rfl (by simp [parts, Ty.parts])
    | app a b iha ihb | function a b iha ihb =>
      refine compound _ ?_ (by simp [parts, Ty.parts, iha, ihb])
      simp [occurrences, Ty.occurrences, parts, Ty.parts]
    | forAll v body ih =>
      refine compound _ ?_ (by simp [parts, Ty.parts, ih])
      simp [occurrences, Ty.occurrences, parts, Ty.parts]
  | kind =>
    induction t with
    | unknown u => exact unknown u
    | star => exact compound _ rfl (by simp [parts, Kind.parts])
    | row k ih =>
      refine compound _ ?_ (by simp [parts, Kind.parts, ih])
      simp [occurrences, Kind.occurrences, parts, Kind.parts]
    | function a b iha ihb =>
      refine compound _ ?_ (by simp [parts, Kind.parts, iha, ihb])
      simp [occurrences, Kind.occurrences, parts, Kind.parts]

variable {level : Level} {t : level.Term} {u v : Nat}

theorem parts_ofUnknown (u : Nat) : level.parts (ofUnknown u) = [] := by
  cases level <;> rfl

theorem subterm?_cons_eq_some {x : level.Term} {i : Nat} {place : List Nat} :
    subterm? t (i :: place) = some x ↔
      ∃ part, (level.parts t)[i]? = some part ∧ subterm? part place = some x := by
  rw [subterm?, Option.bind_eq_some_iff]

/-- Nothing but the unknown itself has an unknown at the top. -/
theorem occurrences_of_top (h : subterm? t [] = some (ofUnknown u)) : occurrences t = [u] := by
  rw [Option.some.inj h, LawfulHasUnknowns.occurrences_ofUnknown]

/-- What occurs in a term stands somewhere in it. -/
theorem mem_occurrences_iff_place :
    u ∈ occurrences t ↔ ∃ place, subterm? t place = some (ofUnknown u) := by
  induction t using Level.inductionOnParts with
  | unknown w =>
    constructor
    · intro h
      rw [LawfulHasUnknowns.occurrences_ofUnknown, List.mem_singleton] at h
      exact ⟨[], by rw [h, subterm?]⟩
    · rintro ⟨place, h⟩
      cases place with
      | nil => simp [occurrences_of_top h]
      | cons i place => simp [subterm?_cons_eq_some, parts_ofUnknown] at h
  | compound t hparts ih =>
    constructor
    · intro h
      rw [hparts, List.mem_flatMap] at h
      obtain ⟨part, hpart, hu⟩ := h
      obtain ⟨place, hplace⟩ := (ih part hpart).mp hu
      obtain ⟨i, hi⟩ := List.mem_iff_getElem?.mp hpart
      exact ⟨i :: place, subterm?_cons_eq_some.mpr ⟨part, hi, hplace⟩⟩
    · rintro ⟨place, h⟩
      cases place with
      | nil => simp [occurrences_of_top h]
      | cons i place =>
        obtain ⟨part, hi, hplace⟩ := subterm?_cons_eq_some.mp h
        have hpart := List.mem_of_getElem? hi
        rw [hparts, List.mem_flatMap]
        exact ⟨part, hpart, (ih part hpart).mpr ⟨place, hplace⟩⟩

/-- What comes first in parts that are put together comes first in one of them, and no part in
front of that one has the other. -/
theorem exists_part_of_precedes {α : Type} {f : α → List Nat} {parts : List α}
    (h : Precedes (parts.flatMap f) u v) :
    ∃ (i : Nat) (part : α), parts[i]? = some part ∧ Precedes (f part) u v ∧
      ∀ (j : Nat) (part' : α), parts[j]? = some part' → v ∈ f part' → i ≤ j := by
  induction parts with
  | nil => exact absurd h.1 List.not_mem_nil
  | cons part rest ih =>
    rw [List.flatMap_cons, precedes_append] at h
    rcases h with h | ⟨-, hv, h⟩
    · exact ⟨0, part, rfl, h, fun j _ _ _ => Nat.zero_le j⟩
    · obtain ⟨i, part', hi, hpart', hfirst⟩ := ih h
      refine ⟨i + 1, part', hi, hpart', fun j other hj hother => ?_⟩
      cases j with
      | zero =>
        rw [List.getElem?_cons_zero, Option.some.injEq] at hj
        rw [hj] at hv
        exact absurd hother hv
      | succ j =>
        have hle := hfirst j other hj hother
        omega

/-- A term in which one unknown comes before another is not the other. -/
theorem Precedes.not_top (h : Precedes (occurrences t) u v) :
    subterm? t [] ≠ some (ofUnknown v) := by
  intro htop
  obtain ⟨hmem, hlt⟩ := h
  rw [occurrences_of_top htop] at hmem hlt
  rw [List.mem_singleton.mp hmem] at hlt
  exact Nat.lt_irrefl _ hlt

/-- The order of the occurrences is the order of the places. -/
theorem comesBefore_of_precedes (h : Precedes (occurrences t) u v) : ComesBefore t u v := by
  induction t using Level.inductionOnParts with
  | unknown w =>
    have hmem := h.1
    rw [LawfulHasUnknowns.occurrences_ofUnknown, List.mem_singleton] at hmem
    refine ⟨[], by rw [hmem, subterm?], fun place' hplace' => ?_⟩
    cases place' with
    | nil => exact absurd hplace' h.not_top
    | cons i place' => exact List.nil_lt_cons i place'
  | compound t hparts ih =>
    have hflat := h
    rw [hparts] at hflat
    obtain ⟨i, part, hi, hpart, hfirst⟩ := exists_part_of_precedes hflat
    obtain ⟨place, hplace, hbefore⟩ := ih part (List.mem_of_getElem? hi) hpart
    refine ⟨i :: place, subterm?_cons_eq_some.mpr ⟨part, hi, hplace⟩, fun place' hplace' => ?_⟩
    cases place' with
    | nil => exact absurd hplace' h.not_top
    | cons j place' =>
      obtain ⟨part', hj, hplace'⟩ := subterm?_cons_eq_some.mp hplace'
      have hle : i ≤ j := hfirst j part' hj (mem_occurrences_iff_place.mpr ⟨place', hplace'⟩)
      rw [List.cons_lt_cons_iff]
      rcases Nat.lt_or_eq_of_le hle with hlt | rfl
      · exact Or.inl hlt
      · -- both stand in the same part
        rw [hi, Option.some.injEq] at hj
        subst hj
        exact Or.inr ⟨rfl, hbefore place' hplace'⟩

/-! ## Support -/

namespace Substitution

variable {s s' : Substitution level.Term}

theorem apply_eq_apply_iff : s.apply t = s'.apply t ↔ ∀ u ∈ unknowns t, s.image u = s'.image u := by
  simp only [apply_eq_replace, LawfulHasUnknowns.replace_eq_replace_iff, mem_unknowns]

theorem unknowns_apply (s : Substitution level.Term) (t : level.Term) :
    unknowns (s.apply t) = ((unknowns t).flatMap fun u => unknowns (s.image u)).eraseDups := by
  rw [unknowns, apply_eq_replace, LawfulHasUnknowns.occurrences_replace, eraseDups_flatMap]
  rfl

end Substitution

/-- **The unknowns of a term are its support.** Each unknown that stands somewhere in the term
is listed once, and in front of those that stand only behind one of its places. This is what a
single pass finds, behind what it has found before. Two substitutions have the same effect on
the term just if they send each of its unknowns to the same term. The unknowns after a
substitution are those of the terms put in for them, one after the other and without
repetitions. This holds of types and of kinds. -/
theorem unknowns_support (level : Level) (t : level.Term) :
    (unknowns t).Nodup ∧
      (∀ u, u ∈ unknowns t ↔ ∃ place, subterm? t place = some (ofUnknown u)) ∧
      (unknowns t).Pairwise (ComesBefore t) ∧
      (∀ found, level.collect t found = found ++ (unknowns t).filter (· ∉ found)) ∧
      (∀ s s' : Substitution level.Term,
        s.apply t = s'.apply t ↔ ∀ u ∈ unknowns t, s.image u = s'.image u) ∧
      ∀ s : Substitution level.Term,
        unknowns (s.apply t) = ((unknowns t).flatMap fun u => unknowns (s.image u)).eraseDups := by
  refine ⟨nodup_eraseDups _, fun u => ?_, ?_, level.collect_eq t, fun s s' => ?_, fun s => ?_⟩
  · rw [mem_unknowns, mem_occurrences_iff_place]
  · exact (pairwise_eraseDups _).imp comesBefore_of_precedes
  · exact Substitution.apply_eq_apply_iff
  · exact Substitution.unknowns_apply s t

/-- A type with two places for each of two unknowns, and a substitution that binds one of
them. Another one has the same effect on this type if it binds that one to the same term, and
the other one to nothing or to itself. -/
theorem twoUnknowns_support :
    let t : Ty :=
      .function (.app (.unknown 3) (.unknown 1)) (.forAll "a" (.app (.unknown 1) (.unknown 3)))
    let pair : Ty := .function (.unknown 5) (.unknown 1)
    let s : Substitution Ty := .single 3 pair
    unknowns t = [3, 1] ∧ t.collect [7, 1] = [7, 1, 3] ∧
      s.get? 3 = some pair ∧ s.get? 1 = none ∧
      s.apply t = .function (.app pair (.unknown 1)) (.forAll "a" (.app (.unknown 1) pair)) ∧
      unknowns (s.apply t) = [5, 1] ∧
      ∀ s' : Substitution Ty, s.apply t = s'.apply t ↔
        s'.get? 3 = some pair ∧ (s'.get? 1 = none ∨ s'.get? 1 = some (.unknown 1)) := by
  intro t pair s
  have hunknowns : unknowns t = [3, 1] := by decide
  obtain ⟨-, -, -, hcollect, hsame, himages⟩ := unknowns_support .type t
  refine ⟨hunknowns, (hcollect [7, 1]).trans (by decide), by decide, by decide, by decide,
    (himages s).trans (by decide), fun s' => (hsame s s').trans ?_⟩
  have hbound : s.image 3 = pair := by decide
  have hunbound : s.image 1 = Ty.unknown 1 := by decide
  rw [hunknowns, List.forall_mem_cons, List.forall_mem_singleton, hbound, hunbound]
  refine and_congr ?_ ?_
  · cases h : s'.get? 3 with
    | none => simp [Substitution.image, h, pair, ofUnknown]
    | some x => simp [Substitution.image, h, eq_comm]
  · cases h : s'.get? 1 with
    | none => simp [Substitution.image, h, ofUnknown]
    | some x => simp [Substitution.image, h, eq_comm]

end TypingSession
