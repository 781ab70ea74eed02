import TypingSession.Kind
import TypingSession.Ty

/-!
# TypingSession — terms with unknowns

Types and kinds are solved for in the same way. All that a solver needs of them
is which unknowns a term has and what becomes of it when each unknown is
replaced by a term. `HasUnknowns` gathers these operations, and
`LawfulHasUnknowns` their laws: replacement acts on the unknowns of a term from
left to right, and on nothing else.
-/

namespace TypingSession

/-- Terms that can hold unknowns. -/
class HasUnknowns (α : Type) where
  /-- An unknown as a term. -/
  ofUnknown : Nat → α
  /-- The unknown that a term is, if it is one. -/
  unknown? : α → Option Nat
  /-- The unknowns of a term from left to right, with repetitions. -/
  occurrences : α → List Nat
  /-- A term with each unknown replaced. -/
  replace : (Nat → α) → α → α

export HasUnknowns (ofUnknown unknown? occurrences replace)

/-- The unknowns of a term, each once, in the order of their first occurrence. -/
def unknowns {α : Type} [HasUnknowns α] (t : α) : List Nat := (occurrences t).eraseDups

/-- The laws of replacement. -/
class LawfulHasUnknowns (α : Type) [HasUnknowns α] : Prop where
  /-- A term is an unknown when it is the term made of it. -/
  unknown?_eq_some_iff {t : α} {u : Nat} : unknown? t = some u ↔ t = ofUnknown u
  /-- An unknown holds itself. -/
  occurrences_ofUnknown (u : Nat) : occurrences (ofUnknown u : α) = [u]
  /-- An unknown becomes what replaces it. -/
  replace_ofUnknown (f : Nat → α) (u : Nat) : replace f (ofUnknown u) = f u
  /-- Replacing each unknown by itself changes nothing. -/
  replace_self (t : α) : replace ofUnknown t = t
  /-- Two replacements in a row are one. -/
  replace_replace (f g : Nat → α) (t : α) :
    replace g (replace f t) = replace (fun u => replace g (f u)) t
  /-- The occurrences after a replacement are those of the terms put in. -/
  occurrences_replace (f : Nat → α) (t : α) :
    occurrences (replace f t) = (occurrences t).flatMap fun u => occurrences (f u)
  /-- Two replacements agree on a term when they agree on its unknowns. -/
  replace_eq_replace_iff {f g : Nat → α} {t : α} :
    replace f t = replace g t ↔ ∀ u ∈ occurrences t, f u = g u
  /-- A term is larger than what is put in for an unknown inside it. -/
  replace_ne_of_mem_occurrences {f : Nat → α} {t : α} {u : Nat}
    (hu : u ∈ occurrences t) (hne : t ≠ ofUnknown u) : replace f t ≠ f u

/-! ## Types -/

namespace Ty

/-- The unknown that a type is, if it is one. -/
def unknown? : Ty → Option Nat
  | unknown u => some u
  | var _ | con _ | app _ _ | function _ _ | forAll _ _ => none

/-- The unknowns of a type from left to right. -/
def occurrences : Ty → List Nat
  | unknown u => [u]
  | var _ | con _ => []
  | app a b | function a b => a.occurrences ++ b.occurrences
  | forAll _ body => body.occurrences

/-- A type with each unknown replaced. -/
def replace (f : Nat → Ty) : Ty → Ty
  | unknown u => f u
  | var name => var name
  | con name => con name
  | app a b => app (a.replace f) (b.replace f)
  | function a b => function (a.replace f) (b.replace f)
  | forAll v body => forAll v (body.replace f)

instance : HasUnknowns Ty where
  ofUnknown := unknown
  unknown? := unknown?
  occurrences := occurrences
  replace := replace

theorem replace_self (t : Ty) : t.replace unknown = t := by
  induction t <;> simp_all [replace]

theorem replace_replace (f g : Nat → Ty) (t : Ty) :
    (t.replace f).replace g = t.replace fun u => (f u).replace g := by
  induction t <;> simp_all [replace]

theorem occurrences_replace (f : Nat → Ty) (t : Ty) :
    (t.replace f).occurrences = t.occurrences.flatMap fun u => (f u).occurrences := by
  induction t <;> simp_all [replace, occurrences]

theorem replace_eq_replace_iff {f g : Nat → Ty} {t : Ty} :
    t.replace f = t.replace g ↔ ∀ u ∈ t.occurrences, f u = g u := by
  induction t <;> simp_all [replace, occurrences, or_imp, forall_and]

/-- What is put in for an unknown is a part of the result. -/
theorem sizeOf_le_sizeOf_replace (f : Nat → Ty) {t : Ty} {u : Nat} (hu : u ∈ t.occurrences) :
    sizeOf (f u) ≤ sizeOf (t.replace f) := by
  induction t with
  | unknown v => simp_all [replace, occurrences]
  | var _ | con _ => simp [occurrences] at hu
  | app a b iha ihb | function a b iha ihb =>
    rw [occurrences, List.mem_append] at hu
    simp only [replace, app.sizeOf_spec, function.sizeOf_spec]
    rcases hu with hu | hu
    · have := iha hu
      omega
    · have := ihb hu
      omega
  | forAll v body ih =>
    have := ih hu
    simp only [replace, forAll.sizeOf_spec]
    omega

theorem replace_ne_of_mem_occurrences {f : Nat → Ty} {t : Ty} {u : Nat}
    (hu : u ∈ t.occurrences) (hne : t ≠ unknown u) : t.replace f ≠ f u := by
  intro heq
  have hsize := congrArg sizeOf heq
  cases t with
  | unknown v => simp_all [occurrences]
  | var _ | con _ => simp [occurrences] at hu
  | app a b | function a b =>
    rw [occurrences, List.mem_append] at hu
    simp only [replace, app.sizeOf_spec, function.sizeOf_spec] at hsize
    rcases hu with hu | hu
    all_goals
      have := sizeOf_le_sizeOf_replace f hu
      omega
  | forAll v body =>
    have := sizeOf_le_sizeOf_replace (t := body) f hu
    simp only [replace, forAll.sizeOf_spec] at hsize
    omega

instance : LawfulHasUnknowns Ty where
  unknown?_eq_some_iff {t u} := by
    cases t <;> simp [HasUnknowns.unknown?, HasUnknowns.ofUnknown, unknown?]
  occurrences_ofUnknown _ := rfl
  replace_ofUnknown _ _ := rfl
  replace_self := replace_self
  replace_replace := replace_replace
  occurrences_replace := occurrences_replace
  replace_eq_replace_iff := replace_eq_replace_iff
  replace_ne_of_mem_occurrences := replace_ne_of_mem_occurrences

end Ty

/-! ## Kinds -/

namespace Kind

/-- The unknown that a kind is, if it is one. -/
def unknown? : Kind → Option Nat
  | unknown u => some u
  | star | row _ | function _ _ => none

/-- The unknowns of a kind from left to right. -/
def occurrences : Kind → List Nat
  | unknown u => [u]
  | star => []
  | row k => k.occurrences
  | function a b => a.occurrences ++ b.occurrences

/-- A kind with each unknown replaced. -/
def replace (f : Nat → Kind) : Kind → Kind
  | unknown u => f u
  | star => star
  | row k => row (k.replace f)
  | function a b => function (a.replace f) (b.replace f)

instance : HasUnknowns Kind where
  ofUnknown := unknown
  unknown? := unknown?
  occurrences := occurrences
  replace := replace

theorem replace_self (t : Kind) : t.replace unknown = t := by
  induction t <;> simp_all [replace]

theorem replace_replace (f g : Nat → Kind) (t : Kind) :
    (t.replace f).replace g = t.replace fun u => (f u).replace g := by
  induction t <;> simp_all [replace]

theorem occurrences_replace (f : Nat → Kind) (t : Kind) :
    (t.replace f).occurrences = t.occurrences.flatMap fun u => (f u).occurrences := by
  induction t <;> simp_all [replace, occurrences]

theorem replace_eq_replace_iff {f g : Nat → Kind} {t : Kind} :
    t.replace f = t.replace g ↔ ∀ u ∈ t.occurrences, f u = g u := by
  induction t <;> simp_all [replace, occurrences, or_imp, forall_and]

/-- What is put in for an unknown is a part of the result. -/
theorem sizeOf_le_sizeOf_replace (f : Nat → Kind) {t : Kind} {u : Nat}
    (hu : u ∈ t.occurrences) : sizeOf (f u) ≤ sizeOf (t.replace f) := by
  induction t with
  | unknown v => simp_all [replace, occurrences]
  | star => simp [occurrences] at hu
  | row k ih =>
    have := ih hu
    simp only [replace, row.sizeOf_spec]
    omega
  | function a b iha ihb =>
    rw [occurrences, List.mem_append] at hu
    simp only [replace, function.sizeOf_spec]
    rcases hu with hu | hu
    · have := iha hu
      omega
    · have := ihb hu
      omega

theorem replace_ne_of_mem_occurrences {f : Nat → Kind} {t : Kind} {u : Nat}
    (hu : u ∈ t.occurrences) (hne : t ≠ unknown u) : t.replace f ≠ f u := by
  intro heq
  have hsize := congrArg sizeOf heq
  cases t with
  | unknown v => simp_all [occurrences]
  | star => simp [occurrences] at hu
  | row k =>
    have := sizeOf_le_sizeOf_replace (t := k) f hu
    simp only [replace, row.sizeOf_spec] at hsize
    omega
  | function a b =>
    rw [occurrences, List.mem_append] at hu
    simp only [replace, function.sizeOf_spec] at hsize
    rcases hu with hu | hu
    all_goals
      have := sizeOf_le_sizeOf_replace f hu
      omega

instance : LawfulHasUnknowns Kind where
  unknown?_eq_some_iff {t u} := by
    cases t <;> simp [HasUnknowns.unknown?, HasUnknowns.ofUnknown, unknown?]
  occurrences_ofUnknown _ := rfl
  replace_ofUnknown _ _ := rfl
  replace_self := replace_self
  replace_replace := replace_replace
  occurrences_replace := occurrences_replace
  replace_eq_replace_iff := replace_eq_replace_iff
  replace_ne_of_mem_occurrences := replace_ne_of_mem_occurrences

end Kind

end TypingSession
