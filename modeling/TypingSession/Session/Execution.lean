import TypingSession.Session.Trace

/-!
# TypingSession — executions

An execution is what comes of running something: a trace, and an outcome. It
finishes or fails, and in both cases leaves a state behind; or the unknowns run
out, and nothing after that is defined.

Two operations put executions together. `andThen` continues one that has
finished. A `Bracket` runs a body between two events, in a state made from the
outer one, and decides what becomes of the outer state and of the failure of the
body.

* `idle_andThen`, `andThen_idle`, `andThen_assoc` — continuing is associative,
  and doing nothing is neutral for it.
-/

namespace TypingSession

/-- How a run ends. -/
inductive Outcome (σ : Type) where
  /-- It has succeeded. -/
  | finished (final : σ)
  /-- It has failed. -/
  | failed (stack : ErrorStack) (final : σ)
  /-- It has asked for more unknowns than there are. -/
  | exhausted
deriving DecidableEq

/-- What comes of running something. -/
structure Execution (σ : Type) where
  /-- What happened. -/
  trace : Trace
  /-- How it ended. -/
  outcome : Outcome σ
deriving DecidableEq

/-- States of which something can be seen. -/
class Observable (σ : Type) where
  /-- What can be seen. -/
  moment : σ → Moment

namespace Execution

variable {σ τ : Type}

/-- The execution of nothing. -/
def idle (s : σ) : Execution σ := ⟨[], .finished s⟩

/-- One execution and, if it has finished, another from where it ended. -/
def andThen (e : Execution σ) (next : σ → Execution σ) : Execution σ :=
  match e.outcome with
  | .finished s => let rest := next s; ⟨e.trace ++ rest.trace, rest.outcome⟩
  | .failed _ _ | .exhausted => e

/-- The execution of a single action. -/
def single [Observable σ] (subject : Subject) (result : Except ErrorStack Reply) (final : σ) :
    Execution σ :=
  match result with
  | .ok reply => ⟨[⟨subject, .finished reply, Observable.moment final⟩], .finished final⟩
  | .error stack => ⟨[⟨subject, .failed stack, Observable.moment final⟩], .failed stack final⟩

/-- An execution that ends because the unknowns have run out. -/
def exhausted : Execution σ := ⟨[], .exhausted⟩

/-- An execution with events in front. -/
def after (events : Trace) (e : Execution σ) : Execution σ := ⟨events ++ e.trace, e.outcome⟩

/-! ## Laws of continuing -/

@[simp] theorem idle_andThen (s : σ) (next : σ → Execution σ) :
    (idle s).andThen next = next s := by
  simp [idle, andThen]

@[simp] theorem andThen_idle (e : Execution σ) : e.andThen idle = e := by
  obtain ⟨trace, outcome⟩ := e
  cases outcome <;> simp [andThen, idle]

theorem andThen_assoc (e : Execution σ) (f g : σ → Execution σ) :
    (e.andThen f).andThen g = e.andThen fun s => (f s).andThen g := by
  obtain ⟨trace, outcome⟩ := e
  cases outcome with
  | failed stack s => rfl
  | exhausted => rfl
  | finished s =>
    -- what follows depends only on how the second of the three has ended
    simp only [andThen]
    cases h : (f s).outcome <;> simp [h]

end Execution

/-- A command on states `σ` whose body runs on states `τ`. -/
structure Bracket (σ τ : Type) where
  /-- What its events are about. -/
  subject : Subject
  /-- The state in which the body starts. -/
  enter : σ → τ
  /-- The state behind the body and the result of the whole, from the state
  before, the failure of the body if it failed, and the state in which it ended. -/
  leave : σ → Option ErrorStack → τ → Except ErrorStack Reply × σ

namespace Bracket

variable {σ τ : Type} [Observable σ] [Observable τ]

/-- The end of a bracket, once its body has run. -/
def close (b : Bracket σ τ) (before : σ) : Outcome τ → Execution σ
  | .finished t =>
    let (result, s) := b.leave before none t
    .single b.subject result s
  | .failed stack t =>
    let (result, s) := b.leave before (some stack) t
    .single b.subject result s
  -- there is no closing event once the unknowns have run out
  | .exhausted => .exhausted

/-- The execution of a body inside a bracket. -/
def around (b : Bracket σ τ) (body : τ → Execution τ) (s : σ) : Execution σ :=
  let inside := body (b.enter s)
  .after (⟨b.subject, .entered, Observable.moment (b.enter s)⟩ :: inside.trace)
    (b.close s inside.outcome)

end Bracket

end TypingSession
