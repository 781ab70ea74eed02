import Mathlib.Data.List.Basic
import TypingSession.Fixture.Directory

/-!
# TypingSession — the files that paths lead to

A path is walked from left to right, and a flat directory has nothing to walk into. So a path
leads to a file in one way only: some parts that stay where they are, and then the name of the
file. Whoever has left the directory does not come back, and behind a file nothing follows.

* `walk_inside_eq_file_iff` — the parts that lead to a file.
* `read_eq_ok_iff` — what can be read, by the parts of the path.
-/

namespace TypingSession.Directory

variable {d : Directory} {part : List Char} {parts : List (List Char)} {contents : ByteArray}

/-- A part of a path that stays where it is. -/
def Stays (part : List Char) : Prop := part = [] ∨ part = ['.']

/-- A part that can be the name of a file. -/
structure IsName (part : List Char) : Prop where
  moves : ¬ Stays part
  not_parent : part ≠ ['.', '.']
  short : (String.ofList part).utf8ByteSize ≤ longestName

/-! ## Steps -/

theorem step_of_stays (h : Stays part) : d.step .inside part = .ok .inside := by
  rcases h with rfl | rfl <;> rfl

/-- A part that neither stays nor leaves is looked up as a name. -/
theorem step_inside_of_moves (hmoves : ¬ Stays part) (hparent : part ≠ ['.', '.']) :
    d.step .inside part =
      if longestName < (String.ofList part).utf8ByteSize then .error .nameTooLong
      else
        match d.files.lookup (String.ofList part) with
        | some contents => .ok (.file contents)
        | none => .error .notFound := by
  -- the last case of `step` opens once the part is known to be none of the others
  have hempty : part ≠ [] := fun h => hmoves (Or.inl h)
  have hdot : part ≠ ['.'] := fun h => hmoves (Or.inr h)
  cases hfile : d.files.lookup (String.ofList part) with
  | none => simp [step, hfile]
  | some c => simp [step, hfile]

/-- A step ends at a file when it takes the name of one. -/
theorem step_inside_eq_file_iff :
    d.step .inside part = .ok (.file contents) ↔
      IsName part ∧ d.files.lookup (String.ofList part) = some contents := by
  by_cases hstays : Stays part
  · refine iff_of_false ?_ fun h => h.1.moves hstays
    rw [step_of_stays hstays]
    simp
  by_cases hparent : part = ['.', '.']
  · refine iff_of_false ?_ fun h => h.1.not_parent hparent
    subst hparent
    simp [step]
  rw [step_inside_of_moves hstays hparent]
  split
  case isTrue hlong =>
    exact iff_of_false (by simp) fun h => Nat.not_lt.mpr h.1.short hlong
  case isFalse hshort =>
    have hname : IsName part := ⟨hstays, hparent, Nat.not_lt.mp hshort⟩
    cases d.files.lookup (String.ofList part) <;> simp [hname]

/-- A step that stays in the directory takes a part that stays. -/
theorem step_inside_eq_inside_iff : d.step .inside part = .ok .inside ↔ Stays part := by
  refine ⟨fun h => ?_, step_of_stays⟩
  by_contra hmoves
  by_cases hparent : part = ['.', '.']
  · subst hparent
    simp [step] at h
  · rw [step_inside_of_moves hmoves hparent] at h
    split at h
    · cases h
    · split at h <;> cases h

/-- Nothing leads back into the directory. -/
theorem step_outside {place : Place} (h : d.step .outside part = .ok place) :
    place = .outside := by
  unfold step at h
  split at h <;> grind

/-! ## Walks -/

theorem walk_outside {place : Place} (h : d.walk .outside parts = .ok place) :
    place = .outside := by
  induction parts with
  | nil => exact (Except.ok.inj h).symm
  | cons part rest ih =>
    unfold walk at h
    cases hstep : d.step .outside part with
    | error e =>
      rw [hstep] at h
      cases h
    | ok next =>
      rw [hstep] at h
      obtain rfl := step_outside hstep
      exact ih h

/-- Behind a file nothing follows. -/
theorem walk_file {place : Place} {c : ByteArray} (h : d.walk (.file c) parts = .ok place) :
    parts = [] ∧ place = .file c := by
  cases parts with
  | nil => exact ⟨rfl, (Except.ok.inj h).symm⟩
  | cons part rest => cases h

/-- A way to a file: parts that stay, and the name of the file behind them. -/
theorem walk_inside_eq_file_iff :
    d.walk .inside parts = .ok (.file contents) ↔
      ∃ before name, parts = before ++ [name] ∧ (∀ part ∈ before, Stays part) ∧
        IsName name ∧ d.files.lookup (String.ofList name) = some contents := by
  constructor
  · intro h
    induction parts with
    | nil => cases h
    | cons part rest ih =>
      unfold walk at h
      cases hstep : d.step .inside part with
      | error e =>
        rw [hstep] at h
        cases h
      | ok next =>
        rw [hstep] at h
        cases next with
        | inside =>
          obtain ⟨before, name, rfl, hbefore, hname⟩ := ih h
          have hstays := step_inside_eq_inside_iff.mp hstep
          exact ⟨part :: before, name, rfl, List.forall_mem_cons.mpr ⟨hstays, hbefore⟩, hname⟩
        | outside => cases walk_outside h
        | file c =>
          obtain ⟨rfl, hc⟩ := walk_file h
          cases hc
          exact ⟨[], part, rfl, by simp, step_inside_eq_file_iff.mp hstep⟩
  · rintro ⟨before, name, rfl, hbefore, hname⟩
    induction before with
    | nil =>
      have hstep := step_inside_eq_file_iff.mpr hname
      simp only [List.nil_append, walk, hstep]
    | cons part rest ih =>
      obtain ⟨hpart, hrest⟩ := List.forall_mem_cons.mp hbefore
      simp only [List.cons_append, walk, step_of_stays hpart]
      exact ih hrest

/-! ## Paths -/

/-- What can be read: a path that can be followed, does not begin at the root, and stays where it
is until its last part, the name of a file. -/
theorem read_eq_ok_iff {path : String} :
    d.read path = .ok contents ↔
      pathError? path = none ∧ path.startsWith "/" = false ∧
        ∃ before name, Text.fields '/' path.toList = before ++ [name] ∧
          (∀ part ∈ before, Stays part) ∧
            IsName name ∧ d.files.lookup (String.ofList name) = some contents := by
  have hread : d.read path = .ok contents ↔
      pathError? path = none ∧
        d.walk (start path) (Text.fields '/' path.toList) = .ok (.file contents) := by
    unfold read
    split
    case h_1 e he => simp [he]
    case h_2 hnone =>
      rw [hnone]
      split <;> simp_all
  rw [hread, ← walk_inside_eq_file_iff]
  unfold start
  cases path.startsWith "/" with
  | false => simp
  | true =>
    have houtside : d.walk .outside (Text.fields '/' path.toList) ≠ .ok (.file contents) :=
      fun h => nomatch walk_outside h
    simp [houtside]

end TypingSession.Directory
