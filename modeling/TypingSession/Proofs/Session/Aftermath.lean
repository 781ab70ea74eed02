import TypingSession.Proofs.Session.Pace
import TypingSession.Proofs.Session.Solving

/-!
# TypingSession — what a failure leaves behind

A failure begins at an action and goes out through the brackets around it, up to the
one that catches it or to the end of the run. On its way nothing is put back but the
counter of unknowns: a check program inside a solver gives the session its own back.

The trace tells where a failure has begun. An event that enters a bracket opens it, and
the next event about that bracket closes it; so the brackets that are still open at an
event (`Trace.unclosed`) are those around it, and what follows a failed action is one
closing event for each of them, the innermost first (`Trace.FailsAt`).

* `Execution.unwinds_law` — in every run, the state behind a failure is the one at the
  failed action but for the counter, and the counter is the one at the entry of the
  outermost solver that the failure has crossed.
* `CheckProgram.left_by_failure` — the same for both kinds of program, with what a
  solver keeps when its program fails.
-/

namespace TypingSession

open Observable (moment)

/-! ## Open brackets -/

/-- Whether the events of a command tell of a body. -/
def Subject.isBracket : Subject → Bool
  | wrapper _ | bridge _ _ | solverAttempt _ | checkStep _ => true
  | action _ | solverAction _ _ => false

/-- Whether a command starts a solver. -/
def Subject.isBridge : Subject → Bool
  | bridge _ _ => true
  | action _ | wrapper _ | solverAction _ _ | solverAttempt _ | checkStep _ => false

/-- The state of the session that can be seen at a moment. -/
def Moment.state : Moment → State
  | checking state => state
  | solving _ _ state => state

/-- The open brackets behind an event, by the events that have opened them. -/
def Event.nest (opened : List Event) (ev : Event) : List Event :=
  match ev.stage with
  | .entered => ev :: opened
  | .finished _ | .failed _ => if ev.subject.isBracket then opened.tail else opened

theorem Event.nest_of_entered {ev : Event} (h : ev.stage = .entered) (opened : List Event) :
    ev.nest opened = ev :: opened := by
  unfold nest
  rw [h]

theorem Event.nest_of_not_entered {ev : Event} (h : ev.stage ≠ .entered) (opened : List Event) :
    ev.nest opened = if ev.subject.isBracket then opened.tail else opened := by
  unfold nest
  cases hstage : ev.stage with
  | entered => exact absurd hstage h
  | finished reply | failed stack => rfl

theorem Stage.telling_ne_entered (result : Except ErrorStack Reply) :
    telling result ≠ entered := by
  cases result <;> simp [telling]

namespace Trace

/-- The brackets that are open behind a trace, the innermost first, if `opened` are
open in front of it. -/
def unclosed (opened : List Event) (t : Trace) : List Event := t.foldl Event.nest opened

/-- A trace closes what it opens, and nothing else. -/
def Balanced (t : Trace) : Prop := ∀ opened, unclosed opened t = opened

theorem unclosed_append (opened : List Event) (t t' : Trace) :
    unclosed opened (t ++ t') = unclosed (unclosed opened t) t' :=
  List.foldl_append

theorem balanced_nil : Balanced [] := fun _ => rfl

theorem Balanced.append {t t' : Trace} (h : t.Balanced) (h' : t'.Balanced) :
    Balanced (t ++ t') := by
  intro opened
  rw [unclosed_append, h, h']

/-- An action opens and closes nothing. -/
theorem balanced_singleton {ev : Event} (hstage : ev.stage ≠ .entered)
    (hsubject : ev.subject.isBracket = false) : Balanced [ev] := by
  intro opened
  show ev.nest opened = opened
  rw [Event.nest_of_not_entered hstage, hsubject]
  rfl

/-- A bracket closes what it has opened once its body has closed everything of its own. -/
theorem Balanced.enclosed {t : Trace} (h : t.Balanced) {opening closing : Event}
    (hopening : opening.stage = .entered) (hclosing : closing.stage ≠ .entered)
    (hsubject : closing.subject.isBracket = true) :
    Balanced (opening :: (t ++ [closing])) := by
  intro opened
  show unclosed (opening.nest opened) (t ++ [closing]) = opened
  rw [Event.nest_of_entered hopening, unclosed_append, h]
  show closing.nest (opening :: opened) = opened
  rw [Event.nest_of_not_entered hclosing, hsubject]
  rfl

/-- A failure has begun at the event `ev` of a trace: there an action has failed, behind
`before` and inside the brackets `crossed`, and `after` tells that each of these has
failed in its turn. -/
structure FailsAt (t before : Trace) (ev : Event) (after : Trace) (crossed : List Event) :
    Prop where
  eq : t = before ++ ev :: after
  isAction : ev.subject.isBracket = false
  isFailure : ev.stage.isFailure = true
  unclosed_eq : ∀ opened, unclosed opened before = crossed ++ opened
  subjects_eq : after.map Event.subject = crossed.map Event.subject
  passed : ∀ ev' ∈ after, ev'.subject.isBracket = true ∧ ev'.stage.isFailure = true

theorem FailsAt.append_left {t before after : Trace} {ev : Event} {crossed : List Event}
    (h : FailsAt t before ev after crossed) {t' : Trace} (h' : t'.Balanced) :
    FailsAt (t' ++ t) (t' ++ before) ev after crossed where
  eq := by rw [h.eq, List.append_assoc]
  isAction := h.isAction
  isFailure := h.isFailure
  unclosed_eq opened := by rw [unclosed_append, h', h.unclosed_eq]
  subjects_eq := h.subjects_eq
  passed := h.passed

theorem FailsAt.enclosed {t before after : Trace} {ev opening closing : Event}
    {crossed : List Event} (h : FailsAt t before ev after crossed)
    (hopening : opening.stage = .entered) (hclosing : closing.stage.isFailure = true)
    (hsubject : closing.subject = opening.subject)
    (hbracket : closing.subject.isBracket = true) :
    FailsAt (opening :: (t ++ [closing])) (opening :: before) ev (after ++ [closing])
      (crossed ++ [opening]) where
  eq := by rw [h.eq, List.append_assoc]; rfl
  isAction := h.isAction
  isFailure := h.isFailure
  unclosed_eq opened := by
    show unclosed (opening.nest opened) before = crossed ++ [opening] ++ opened
    rw [Event.nest_of_entered hopening, h.unclosed_eq, List.append_assoc]
    rfl
  subjects_eq := by rw [List.map_append, List.map_append, h.subjects_eq]; simp [hsubject]
  passed ev' hev' := by
    rcases List.mem_append.mp hev' with hev' | hev'
    · exact h.passed ev' hev'
    · rw [List.mem_singleton.mp hev']
      exact ⟨hbracket, hclosing⟩

end Trace

/-! ## The way out of a failure -/

/-- Two states differ at most in the counter of unknowns. -/
structure State.Alike (s t : State) : Prop where
  environment_eq : s.environment = t.environment
  nextDictionary_eq : s.nextDictionary = t.nextDictionary
  currentModule_eq : s.currentModule = t.currentModule

theorem State.Alike.refl (s : State) : s.Alike s := ⟨rfl, rfl, rfl⟩

theorem State.Alike.trans {s t u : State} (h : s.Alike t) (h' : t.Alike u) : s.Alike u where
  environment_eq := h.environment_eq.trans h'.environment_eq
  nextDictionary_eq := h.nextDictionary_eq.trans h'.nextDictionary_eq
  currentModule_eq := h.currentModule_eq.trans h'.currentModule_eq

/-- The counter of a session behind a failure: the one at the failed action if no solver
has been crossed, and the one at the entry of the outermost such solver otherwise. -/
def counterBehind (crossed : List Event) (ev : Event) : Nat :=
  match (crossed.filter fun opening => opening.subject.isBridge).getLast? with
  | none => ev.moment.state.nextUnknown
  | some opening => opening.moment.state.nextUnknown

theorem counterBehind_concat_bridge {opening : Event} (h : opening.subject.isBridge = true)
    (crossed : List Event) (ev : Event) :
    counterBehind (crossed ++ [opening]) ev = opening.moment.state.nextUnknown := by
  have hlast : [opening].filter (fun opening => opening.subject.isBridge) = [opening] := by
    simp [h]
  unfold counterBehind
  rw [List.filter_append, hlast, List.getLast?_concat]

theorem counterBehind_concat {opening : Event} (h : opening.subject.isBridge = false)
    (crossed : List Event) (ev : Event) :
    counterBehind (crossed ++ [opening]) ev = counterBehind crossed ev := by
  have hnone : [opening].filter (fun opening => opening.subject.isBridge) = [] := by
    simp [h]
  unfold counterBehind
  rw [List.filter_append, hnone, List.append_nil]

namespace Bracket

variable {σ τ : Type}

/-- A bracket whose body has finished finishes. -/
def Completes (b : Bracket σ τ) : Prop := ∀ s t, ∃ reply, (b.leave s none t).1 = .ok reply

variable [Observable σ] [Observable τ]

/-- A bracket that fails has been crossed by a failure of its body. -/
theorem Completes.exists_of_failed {b : Bracket σ τ} (hb : b.Completes)
    {body : τ → Execution τ} {s t : σ} {stack : ErrorStack}
    (h : (b.around body s).outcome = .failed stack t) :
    ∃ inner m, (body (b.enter s)).outcome = .failed inner m ∧
      (b.leave s (some inner) m).2 = t ∧
      (b.closing s (some inner) m).stage.isFailure = true ∧
      (b.around body s).trace =
        b.opening s :: ((body (b.enter s)).trace ++ [b.closing s (some inner) m]) := by
  rcases b.around_cases body s with ⟨-, heq⟩ | ⟨failure, m, hm, heq⟩
  · rw [heq] at h
    exact absurd h (by simp)
  · rw [heq] at h
    obtain ⟨hfailure, hfinal⟩ := Outcome.ended_inj (g := some stack) h
    cases failure with
    | none =>
      obtain ⟨reply, hreply⟩ := hb s m
      rw [hreply] at hfailure
      exact absurd hfailure (by simp [failure?])
    | some inner =>
      refine ⟨inner, m, hm, hfinal, ?_, by rw [heq]⟩
      unfold closing
      cases hresult : (b.leave s (some inner) m).1 with
      | ok reply =>
        rw [hresult] at hfailure
        exact absurd hfailure (by simp [failure?])
      | error stack' => rfl

end Bracket

theorem Wrapper.bracket_completes (w : Wrapper) : w.bracket.Completes := by
  intro s t
  cases w <;> exact ⟨_, rfl⟩

theorem Bridge.bracket_completes (level : Level) (b : Bridge) :
    (b.bracket level).Completes := by
  intro s t
  cases b <;> exact ⟨_, rfl⟩

theorem Solving.attempt_completes (level : Level) : (Solving.attempt level).Completes :=
  fun _ _ => ⟨_, rfl⟩

theorem Solving.checkStep_completes (level : Level) : (Solving.checkStep level).Completes :=
  fun _ _ => ⟨_, rfl⟩

namespace Execution

variable {σ τ : Type} [Observable σ] [Observable τ]

/-- An execution that closes its brackets, and whose failure leaves the state at the
failed action behind, but for the counter. `Q` says what becomes of that. -/
structure Unwinds (Q : σ → List Event → Event → Prop) (e : Execution σ) : Prop where
  balanced : ∀ t, e.outcome.final? = some t → e.trace.Balanced
  failing : ∀ stack t, e.outcome = .failed stack t →
    ∃ before ev after crossed, e.trace.FailsAt before ev after crossed ∧
      (moment t).state.Alike ev.moment.state ∧ Q t crossed ev

namespace Unwinds

variable {Q : σ → List Event → Event → Prop} {R : τ → List Event → Event → Prop}

theorem idle (s : σ) : (Execution.idle s).Unwinds Q where
  balanced _ _ := Trace.balanced_nil
  failing _ _ h := absurd h (by simp [Execution.idle])

theorem andThen {e : Execution σ} {next : σ → Execution σ} (first : e.Unwinds Q)
    (second : ∀ t, e.outcome = .finished t → (next t).Unwinds Q) :
    (e.andThen next).Unwinds Q := by
  rcases e.andThen_cases next with ⟨-, heq⟩ | ⟨m, hm, heq⟩
  · rw [heq]
    exact first
  · have hfirst : e.trace.Balanced := first.balanced m (by rw [hm]; rfl)
    rw [heq]
    constructor
    · intro t ht
      exact hfirst.append ((second m hm).balanced t ht)
    · -- the first execution has closed its brackets, so the failure has crossed none of them
      intro stack t ht
      obtain ⟨before, ev, after, crossed, hat, halike, hQ⟩ := (second m hm).failing stack t ht
      exact ⟨e.trace ++ before, ev, after, crossed, hat.append_left hfirst, halike, hQ⟩

theorem single {subject : Subject} (hsubject : subject.isBracket = false)
    (result : Except ErrorStack Reply) (t : σ)
    (hQ : ∀ ev : Event, ev.moment = moment t → Q t [] ev) :
    (Execution.single subject result t).Unwinds Q := by
  rw [single_eq]
  constructor
  · intro t' _
    exact Trace.balanced_singleton (Stage.telling_ne_entered result) hsubject
  · intro stack t' h
    obtain ⟨hfailure, rfl⟩ := Outcome.ended_inj (g := some stack) h
    cases result with
    | ok reply => exact absurd hfailure (by simp [failure?])
    | error stack' =>
      -- the action itself is where the failure has begun, inside of nothing
      refine ⟨[], _, [], [], ⟨rfl, hsubject, rfl, fun _ => rfl, rfl, ?_⟩, .refl _, hQ _ rfl⟩
      exact fun ev' hev' => absurd hev' List.not_mem_nil

/-- A bracket that leaves everything but the counter to its body when it fails. -/
theorem around {b : Bracket σ τ} (hb : b.Completes) (hsubject : b.subject.isBracket = true)
    {body : τ → Execution τ} {s : σ} (inside : (body (b.enter s)).Unwinds R)
    (halike : ∀ stack t, (moment (b.leave s (some stack) t).2).state.Alike (moment t).state)
    (hQ : ∀ stack t crossed ev, (body (b.enter s)).outcome = .failed stack t →
      R t crossed ev → Q (b.leave s (some stack) t).2 (crossed ++ [b.opening s]) ev) :
    (b.around body s).Unwinds Q := by
  constructor
  · intro t h
    rcases b.around_cases body s with ⟨-, heq⟩ | ⟨failure, m, hm, heq⟩
    · rw [heq] at h
      exact absurd h (by simp)
    · have hinside : (body (b.enter s)).trace.Balanced :=
        inside.balanced m (by rw [hm, Outcome.final?_ended])
      rw [heq]
      exact hinside.enclosed rfl (Stage.telling_ne_entered _) hsubject
  · intro stack t h
    obtain ⟨inner, m, hm, rfl, hclosing, htrace⟩ := hb.exists_of_failed h
    obtain ⟨before, ev, after, crossed, hat, hbefore, hR⟩ := inside.failing inner m hm
    -- this bracket is the outermost that the failure has crossed so far
    refine ⟨b.opening s :: before, ev, after ++ [b.closing s (some inner) m],
      crossed ++ [b.opening s], ?_, (halike inner m).trans hbefore, hQ inner m crossed ev hm hR⟩
    rw [htrace]
    exact hat.enclosed rfl hclosing rfl hsubject

end Unwinds

/-- The law of failures. In a session the counter is followed as well; in a solver that
of the session is simply what it was, by the law of the counter. -/
theorem unwinds_law :
    RunLaw (fun _ e => e.Unwinds fun t crossed ev => t.state.nextUnknown = counterBehind crossed ev)
      (fun _ _ e => e.Unwinds fun _ _ _ => True) where
  idle := Unwinds.idle
  andThen := Unwinds.andThen
  action a s := by
    refine Unwinds.single rfl _ _ fun ev hev => ?_
    show _ = ev.moment.state.nextUnknown
    rw [hev]
    rfl
  wrapper w body s inside := by
    refine Unwinds.around w.bracket_completes rfl (inside _) ?_ ?_
    · intro stack t
      -- no wrapper puts anything back, not even a scope
      cases w <;> exact .refl _
    · intro stack t crossed ev _ hcounter
      rw [counterBehind_concat rfl]
      cases w <;> exact hcounter
  bridge {level} b body s inside := by
    refine Unwinds.around (b.bracket_completes level) rfl (inside _) ?_ ?_
    · intro stack t
      cases b <;> exact .refl _
    · intro stack t crossed ev hfailed _
      rw [counterBehind_concat_bridge rfl]
      -- what the session had lent to the solver is still there
      have hrises := rises_law.solverProgram body ((b.bracket level).enter s)
      have hback := b.counter_of_lent (hrises.lent_eq t (by rw [hfailed]; rfl))
      cases b <;> exact hback
  solverIdle := Unwinds.idle
  solverAndThen := Unwinds.andThen
  solverAction a s := by
    rcases a.run_cases s with ⟨heq, -⟩ | ⟨-, reply, -, heq⟩ | ⟨result, t, heq, -⟩
    · rw [heq]
      exact ⟨fun t ht => absurd ht (by simp [exhausted]),
        fun stack t ht => absurd ht (by simp [exhausted])⟩
    · rw [heq]
      exact Unwinds.single rfl _ _ fun _ _ => trivial
    · rw [heq]
      exact Unwinds.single rfl _ _ fun _ _ => trivial
  attempt {level} body s inside :=
    Unwinds.around (Solving.attempt_completes level) rfl (inside _)
      (fun _ _ => .refl _) fun _ _ _ _ _ _ => trivial
  checkStep {level} body s inside :=
    Unwinds.around (Solving.checkStep_completes level) rfl (inside _)
      (fun _ _ => ⟨rfl, rfl, rfl⟩) fun _ _ _ _ _ _ => trivial

end Execution

/-! ## The command at which a solver program fails -/

/-- A solver program, run from a state, comes to a command in another state. -/
inductive SolverProgram.ComesTo {level : Level} :
    SolverProgram level → Solving level → SolverCommand level → Solving level → Prop where
  | here {c : SolverCommand level} {rest : SolverProgram level} {s : Solving level} :
    ComesTo (.step c rest) s c s
  | later {c c' : SolverCommand level} {rest : SolverProgram level} {s m t : Solving level} :
    (c.run s).outcome = .finished m → ComesTo rest m c' t → ComesTo (.step c rest) s c' t

section Solver

variable {level : Level}

theorem SolverProgram.ComesTo.counter_le {p : SolverProgram level} {c : SolverCommand level}
    {s m : Solving level} (h : p.ComesTo s c m) : s.solver.nextUnknown ≤ m.solver.nextUnknown := by
  induction h with
  | here => exact Nat.le_refl _
  | @later c c' rest s m t hfirst _ ih =>
    have hrises := Execution.rises_law.solverCommand c s
    exact Nat.le_trans (hrises.counter_le m (by rw [hfirst]; rfl)) ih

/-- A solver program that fails has come to a command that does. -/
theorem SolverProgram.exists_comesTo_of_failed : (p : SolverProgram level) →
    {s t : Solving level} → {stack : ErrorStack} → (p.run s).outcome = .failed stack t →
    ∃ c m, p.ComesTo s c m ∧ (c.run m).outcome = .failed stack t
  | .done, s, t, stack, h => absurd h (by simp [SolverProgram.run, Execution.idle])
  | .step c rest, s, t, stack, h => by
    rw [SolverProgram.run] at h
    rcases (c.run s).andThen_cases rest.run with ⟨-, heq⟩ | ⟨m, hm, heq⟩
    · rw [heq] at h
      exact ⟨c, s, .here, h⟩
    · rw [heq] at h
      obtain ⟨c', m', hcomes, hfailed⟩ := SolverProgram.exists_comesTo_of_failed rest h
      exact ⟨c', m', .later hm hcomes, hfailed⟩

/-- A solver command that fails has solved nothing. -/
theorem SolverCommand.substitution_of_failed {c : SolverCommand level} {s t : Solving level}
    {stack : ErrorStack} (h : (c.run s).outcome = .failed stack t) :
    t.solver.substitution = s.solver.substitution := by
  have hstep : Solving.Step s [] t := by
    cases c with
    | act a => exact .failed a h
    | check body => exact .check body (by rw [h]; rfl)
    | attempt body =>
      -- an attempt does not fail
      obtain ⟨inner, m, -, -, hclosing, -⟩ := (Solving.attempt_completes level).exists_of_failed h
      exact absurd hclosing (by simp [Bracket.closing, Solving.attempt, Stage.telling, Stage.isFailure])
  rcases hstep.cases with ⟨-, hsame⟩ | ⟨u, x, hnil, -⟩
  · exact hsame
  · exact absurd hnil (by simp)

end Solver

/-- **What a failure leaves behind.** When a check program fails, its trace tells of an
action that has failed, and behind it only of the failures of the brackets around that
action. Environment, dictionary names and module are left as they were right after that
action; the counter is left as it was there too if no solver has been crossed, and
otherwise as it was when the outermost solver that was crossed was entered.

When a solver program fails, the same holds of environment, dictionary names and module.
The counter of the session is the one that the program began with, the substitution is
the one at the command that has failed, and the counter of the solver has not fallen. -/
theorem CheckProgram.left_by_failure :
    (∀ (p : CheckProgram) (s t : Session) (stack : ErrorStack),
      (p.run s).outcome = .failed stack t →
      ∃ before ev after crossed, (p.run s).trace.FailsAt before ev after crossed ∧
        t.state.Alike ev.moment.state ∧ t.state.nextUnknown = counterBehind crossed ev) ∧
    ∀ (level : Level) (p : SolverProgram level) (s t : Solving level) (stack : ErrorStack),
      (p.run s).outcome = .failed stack t →
      (∃ before ev after crossed, (p.run s).trace.FailsAt before ev after crossed ∧
        t.session.state.Alike ev.moment.state) ∧
      t.session.state.nextUnknown = s.session.state.nextUnknown ∧
      ∃ c m, p.ComesTo s c m ∧ (c.run m).outcome = .failed stack t ∧
        t.solver.substitution = m.solver.substitution ∧
        s.solver.nextUnknown ≤ m.solver.nextUnknown ∧
        m.solver.nextUnknown ≤ t.solver.nextUnknown := by
  constructor
  · intro p s t stack h
    exact (Execution.unwinds_law.checkProgram p s).failing stack t h
  · intro level p s t stack h
    have hend : (p.run s).outcome.final? = some t := by rw [h]; rfl
    obtain ⟨before, ev, after, crossed, hat, halike, -⟩ :=
      (Execution.unwinds_law.solverProgram p s).failing stack t h
    have hlent := (Execution.rises_law.solverProgram p s).lent_eq t hend
    obtain ⟨c, m, hcomes, hfailed⟩ := p.exists_comesTo_of_failed h
    have hcounter := (Execution.rises_law.solverCommand c m).counter_le t (by rw [hfailed]; rfl)
    exact ⟨⟨before, ev, after, crossed, hat, halike⟩, Option.some.inj hlent, c, m, hcomes,
      hfailed, SolverCommand.substitution_of_failed hfailed, hcomes.counter_le, hcounter⟩

/-- A solver hands out an unknown and runs a check program, in which a second solver hands
out another and a third one fails. -/
def SolverProgram.failingInside : SolverProgram .type := .ofList [
  .act .freshUnknown,
  .check (.ofList [
    .act .freshDictionary,
    .unify .kind .lift (.ofList [.act .freshUnknown]),
    .unify .kind (.standalone 5) (.ofList [
      .act .freshUnknown, .act (.fail (.single "no" none))])])]

/-- That solver, inside a scope. -/
def CheckProgram.failingInside : CheckProgram := .ofList [
  .wrap (.scope (.dictionaries [])) (.ofList [
    .unify .type .lift SolverProgram.failingInside])]

theorem CheckProgram.failingInside_left :
    let checking := CheckProgram.failingInside.run (.start ∅ ∅)
    let solving := SolverProgram.failingInside.run ⟨.start ∅ ∅, .start 0⟩
    let left : Session := ⟨⟨∅, 0, 1, none⟩, ∅⟩
    checking.outcome = .failed (.single "no" none) left ∧
      (∃ before ev after crossed, checking.trace.FailsAt before ev after crossed ∧
        left.state.Alike ev.moment.state ∧ 0 = counterBehind crossed ev) ∧
      solving.outcome = .failed (.single "no" none) ⟨left, ⟨2, ∅⟩⟩ ∧
      ∃ c m, SolverProgram.failingInside.ComesTo ⟨.start ∅ ∅, .start 0⟩ c m ∧
        (∅ : Substitution Ty) = m.solver.substitution ∧ m.solver.nextUnknown ≤ 2 := by
  intro checking solving left
  have hchecking : checking.outcome = .failed (.single "no" none) left := rfl
  have hsolving : solving.outcome = .failed (.single "no" none) ⟨left, ⟨2, ∅⟩⟩ := rfl
  obtain ⟨hcheck, hsolver⟩ := left_by_failure
  have hleft := hcheck CheckProgram.failingInside (.start ∅ ∅) left _ hchecking
  obtain ⟨-, -, c, m, hcomes, -, hsame, -, hle⟩ :=
    hsolver .type SolverProgram.failingInside ⟨.start ∅ ∅, .start 0⟩ _ _ hsolving
  exact ⟨hchecking, hleft, hsolving, c, m, hcomes, hsame, hle⟩

end TypingSession
