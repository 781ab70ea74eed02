import TypingSession.Failure.Stack
import TypingSession.Unification.Substitution

/-!
# TypingSession — solvers

A solver hands out unknowns and records what they stand for. Unknowns are
numbered one after the other up to a limit. To solve an unknown is to find out
what it stands for so far, to rule out that the new term contains it, and to
compose the one binding into the substitution.
-/

namespace TypingSession

/-- Terms that can be solved for. -/
class Unifiable (α : Type) extends HasUnknowns α where
  /-- The written form of a term. -/
  text : α → String
  /-- What is reported when an unknown would have to contain itself. -/
  occursFrame : Nat → α → Frame

instance : Unifiable Ty where
  text := Ty.text
  occursFrame _ t := ⟨"Occurs check fails", some (.type t)⟩

instance : Unifiable Kind where
  text := Kind.text
  occursFrame u k := ⟨"Occurs check fails: " ++ (Kind.unknown u).text ++ " occurs in " ++ k.text, none⟩

/-- Why an unknown cannot be solved. -/
inductive SolveError (α : Type) where
  /-- It stands for something other than an unknown already. -/
  | alreadySolved (u : Nat) (solution : α)
  /-- It occurs in the term that it would stand for. -/
  | occurs (u : Nat) (solution : α)
deriving DecidableEq, Repr

/-- The failure that a solver reports. -/
def SolveError.stack {α : Type} [Unifiable α] : SolveError α → ErrorStack
  | alreadySolved u t =>
    .single (Unifiable.text (ofUnknown u : α) ++ " is already solved as " ++ Unifiable.text t) none
  | occurs u t => ⟨Unifiable.occursFrame u t, []⟩

/-- The number of unknowns that can be told apart. -/
def unknownLimit : Nat := Nat.pow 2 64 - 1

/-- A solver in the middle of its work. -/
structure Solver (α : Type) where
  /-- The next unknown to hand out. -/
  nextUnknown : Nat
  /-- What has been solved. -/
  substitution : Substitution α
deriving DecidableEq

namespace Solver

variable {α : Type}

/-- A solver whose first unknown is `n`. -/
def start (n : Nat) : Solver α := ⟨n, ∅⟩

/-- A new unknown, unless the numbers have run out. -/
def fresh? (s : Solver α) : Option (Nat × Solver α) :=
  if s.nextUnknown < unknownLimit then
    some (s.nextUnknown, { s with nextUnknown := s.nextUnknown + 1 })
  else none

variable [Unifiable α]

/-- Records a term for an unknown. An unknown that stands for another is followed
first; a term that turns out to be that same unknown says nothing new. -/
def solve (s : Solver α) (u : Nat) (t : α) : Except (SolveError α) (Solver α) :=
  let current := s.substitution.apply (ofUnknown u)
  let solution := s.substitution.apply t
  match unknown? current with
  | none => .error (.alreadySolved u current)
  | some v =>
    -- `u` has been followed to `v`, and `v` is what gets the binding
    if unknown? solution = some v then .ok s
    else if v ∈ unknowns solution then .error (.occurs v solution)
    else .ok { s with substitution := s.substitution.compose (.single v solution) }

end Solver

end TypingSession
