import Mathlib.Data.List.Forall2
import TypingSession.Proofs.Session.Aftermath
import TypingSession.Proofs.Session.Lexical.Evaluation

/-!
# TypingSession — scopes are lexical

A session saves a field of the environment, extends it, runs a body and puts the field
back. An evaluation does nothing of the kind: it tells the body a longer context. For a
lexical program the two come to the same. They tell of the same commands with the same
answers and failures, in the same order; at each of them the environment of the session
shows the context of the evaluation; and the environment in the end is the one at the
start.

The exception is a bracket that a failure has crossed. A scope puts nothing back then,
so the environment is still that of the action which has failed.

* `Execution.Agrees` — an execution and an evaluation tell the same.
* `CheckProgram.agrees` — so do the run and the evaluation of a lexical program, at any
  place in a program.
* `CheckProgram.lexically_scoped` — the same for a whole program, in any session.
-/

namespace TypingSession

open Observable (moment)

/-! ## Agreement -/

/-- Whether an event is that of a bracket which a failure has crossed. -/
def Event.isCrossing (ev : Event) : Bool := ev.subject.isBracket && ev.stage.isFailure

/-- An event of a run and an entry of an evaluation tell the same, and the environment
that can be seen shows the context. -/
structure Event.Agrees (ev : Event) (note : Note) : Prop where
  subject_eq : ev.subject = note.subject
  stage_eq : ev.stage = note.stage
  shows : ev.isCrossing = false → note.context.Shows ev.moment.state.environment

/-- A run and an evaluation end alike. What a failure leaves behind is not asked. -/
inductive Outcome.Agrees {σ ρ : Type} (R : σ → ρ → Prop) : Outcome σ → Conclusion ρ → Prop where
  | finished {s : σ} {r : ρ} (h : R s r) : Agrees R (.finished s) (.finished r)
  | failed (stack : ErrorStack) (s : σ) : Agrees R (.failed stack s) (.failed stack)
  | exhausted : Agrees R .exhausted .exhausted

theorem Outcome.Agrees.mono {σ ρ : Type} {R S : σ → ρ → Prop} (h : ∀ s r, R s r → S s r)
    {o : Outcome σ} {k : Conclusion ρ} (ho : o.Agrees R k) : o.Agrees S k := by
  cases ho with
  | finished hr => exact .finished (h _ _ hr)
  | failed stack s => exact .failed stack s
  | exhausted => exact .exhausted

theorem Outcome.Agrees.exists_of_finished {σ ρ : Type} {R : σ → ρ → Prop} {o : Outcome σ}
    {r : ρ} (h : o.Agrees R (.finished r)) : ∃ s, o = .finished s ∧ R s r := by
  cases h with
  | finished hr => exact ⟨_, rfl, hr⟩

/-- An execution and an evaluation tell the same and end alike. -/
structure Execution.Agrees {σ ρ : Type} (R : σ → ρ → Prop) (e : Execution σ)
    (v : Evaluation ρ) : Prop where
  trace : List.Forall₂ Event.Agrees e.trace v.notes
  outcome : e.outcome.Agrees R v.conclusion

namespace Execution.Agrees

variable {σ τ ρ π : Type} {R : σ → ρ → Prop}

theorem idle {s : σ} {r : ρ} (h : R s r) : (Execution.idle s).Agrees R (.idle r) :=
  ⟨.nil, .finished h⟩

theorem exhausted : (Execution.exhausted : Execution σ).Agrees R .exhausted :=
  ⟨.nil, .exhausted⟩

theorem andThen {e : Execution σ} {v : Evaluation ρ} {next : σ → Execution σ}
    {next' : ρ → Evaluation ρ} (first : e.Agrees R v)
    (second : ∀ s r, R s r → (next s).Agrees R (next' r)) :
    (e.andThen next).Agrees R (v.andThen next') := by
  obtain ⟨trace, outcome⟩ := e
  obtain ⟨notes, conclusion⟩ := v
  obtain ⟨htrace, houtcome⟩ := first
  cases houtcome with
  | finished h =>
    -- both go on, and from related places
    have hrest := second _ _ h
    exact ⟨List.rel_append htrace hrest.trace, hrest.outcome⟩
  -- and here neither does
  | failed stack s => exact ⟨htrace, .failed stack s⟩
  | exhausted => exact ⟨htrace, .exhausted⟩

variable [Observable σ] [Observable τ]

theorem single {subject : Subject} {result : Except ErrorStack Reply} {s : σ} {r : ρ}
    {c : Context} (h : R s r) (hc : c.Shows (moment s).state.environment) :
    (Execution.single subject result s).Agrees R (.single subject c result r) := by
  cases result with
  | ok reply => exact ⟨.cons ⟨rfl, rfl, fun _ => hc⟩ .nil, .finished h⟩
  | error stack => exact ⟨.cons ⟨rfl, rfl, fun _ => hc⟩ .nil, .failed stack s⟩

/-- A bracket agrees with an evaluation around its body if its two ends do. -/
theorem around {S : τ → π → Prop} {b : Bracket σ τ} (hb : b.subject.isBracket = true)
    {body : τ → Execution τ} {s : σ} {v : Evaluation π} (inside : (body (b.enter s)).Agrees S v)
    {outer inner : Context} {amend : ErrorStack → ErrorStack} {close : π → Reply × ρ}
    (hinner : inner.Shows (moment (b.enter s)).state.environment)
    (hfinished : ∀ t r, S t r → (b.leave s none t).1 = .ok (close r).1 ∧
      R (b.leave s none t).2 (close r).2 ∧
      outer.Shows (moment (b.leave s none t).2).state.environment)
    (hfailed : ∀ stack t, (b.leave s (some stack) t).1 = .error (amend stack)) :
    (b.around body s).Agrees R (.enclosed b.subject outer inner amend close v) := by
  obtain ⟨notes, conclusion⟩ := v
  obtain ⟨htrace, houtcome⟩ := inside
  have hopening : (b.opening s).Agrees ⟨b.subject, .entered, inner⟩ := ⟨rfl, rfl, fun _ => hinner⟩
  rcases b.around_cases body s with ⟨hbody, heq⟩ | ⟨failure, t, hbody, heq⟩
  · -- once the unknowns have run out, neither tells of an end
    rw [hbody] at houtcome
    cases houtcome
    rw [heq]
    exact ⟨.cons hopening htrace, .exhausted⟩
  · rw [heq]
    rw [hbody] at houtcome
    cases failure with
    | none =>
      obtain ⟨r, rfl, hr⟩ : ∃ r, conclusion = .finished r ∧ S t r := by
        cases houtcome with
        | finished h => exact ⟨_, rfl, h⟩
      obtain ⟨hreply, hR, houter⟩ := hfinished t r hr
      have hclosing : (b.closing s none t).Agrees ⟨b.subject, .finished (close r).1, outer⟩ := by
        refine ⟨rfl, ?_, fun _ => houter⟩
        unfold Bracket.closing
        rw [hreply]
        rfl
      rw [hreply]
      exact ⟨.cons hopening (List.rel_append htrace (.cons hclosing .nil)), .finished hR⟩
    | some stack =>
      obtain rfl : conclusion = .failed stack := by
        cases houtcome
        rfl
      have hresult := hfailed stack t
      have hclosing :
          (b.closing s (some stack) t).Agrees ⟨b.subject, .failed (amend stack), outer⟩ := by
        unfold Bracket.closing
        rw [hresult]
        -- the failure crosses the bracket, so its environment is not asked
        refine ⟨rfl, rfl, fun h => absurd h ?_⟩
        simp [Event.isCrossing, hb, Stage.telling, Stage.isFailure]
      rw [hresult]
      exact ⟨.cons hopening (List.rel_append htrace (.cons hclosing .nil)), .failed _ _⟩

end Execution.Agrees

/-! ## Actions -/

/-- A session has come as far as an evaluation, in an environment. -/
def Session.IsAt (e : Environment) (s : Session) (p : Progress) : Prop :=
  s.state = ⟨e, p.nextUnknown, p.nextDictionary, p.currentModule⟩

/-- A solver has come as far as an evaluation, in an environment and with the counter that
the session has lent to it. -/
structure Solving.IsAt (e : Environment) (lent : Nat) {level : Level} (s : Solving level)
    (p : SolverProgress level) : Prop where
  state_eq : s.session.state = ⟨e, lent, p.nextDictionary, p.currentModule⟩
  solver_eq : s.solver = p.solver

section Actions

variable {c : Context} {e : Environment}

theorem Session.IsAt.shows (hc : c.Shows e) {s : Session} {p : Progress} (h : s.IsAt e p) :
    c.Shows (moment s).state.environment := by
  show c.Shows s.state.environment
  rw [h]
  exact hc

theorem Solving.IsAt.shows (hc : c.Shows e) {lent : Nat} {level : Level} {s : Solving level}
    {p : SolverProgress level} (h : s.IsAt e lent p) : c.Shows (moment s).state.environment := by
  show c.Shows s.session.state.environment
  rw [h.state_eq]
  exact hc

theorem CheckAction.run_agrees (a : CheckAction) (ha : a.isLexical = true) (hc : c.Shows e)
    {s : Session} {p : Progress} (hs : s.IsAt e p) :
    (a.run s).Agrees (Session.IsAt e) (a.evaluate c p) := by
  have hsingle (result : Except ErrorStack Reply) (t : Session) (q : Progress) (ht : t.IsAt e q) :
      (Execution.single (.action a) result t).Agrees (Session.IsAt e)
        (.single (.action a) c result q) := Execution.Agrees.single ht (ht.shows hc)
  have henvironment : s.state.environment = e := by rw [hs]
  have hdictionary : s.state.nextDictionary = p.nextDictionary := by rw [hs]
  have hmodule : s.state.currentModule = p.currentModule := by rw [hs]
  cases a with
  | findName name =>
    simp only [run, perform, evaluate, henvironment, hc.names_eq]
    exact hsingle _ s p hs
  | findType name =>
    simp only [run, perform, evaluate, henvironment, hc.types_eq]
    exact hsingle _ s p hs
  | typeOf current name =>
    simp only [run, perform, evaluate, State.typeOf, henvironment, hc.names_eq]
    cases c.name? (name.full current) <;> exact hsingle _ s p hs
  | kindOf current name =>
    simp only [run, perform, evaluate, State.kindOf, henvironment, hc.types_eq]
    cases c.type? (name.full current) <;> exact hsingle _ s p hs
  | dictionaries =>
    simp only [run, perform, evaluate, henvironment, hc.dictionaries_eq]
    exact hsingle _ s p hs
  | freshDictionary =>
    simp only [run, perform, evaluate, hdictionary]
    refine hsingle _ _ _ ?_
    unfold Session.IsAt
    rw [hs]
  | setModule m =>
    simp only [run, perform, evaluate]
    refine hsingle _ _ _ ?_
    unfold Session.IsAt
    rw [hs]
  | currentModule =>
    simp only [run, perform, evaluate, hmodule]
    exact hsingle _ s p hs
  | fail stack | guard stack condition =>
    simp only [run, perform, evaluate]
    exact hsingle _ s p hs
  | _ => exact absurd ha (by simp [isLexical])

theorem SolverAction.run_agrees {level : Level} (a : SolverAction level) (hc : c.Shows e)
    {lent : Nat} {s : Solving level} {p : SolverProgress level} (hs : s.IsAt e lent p) :
    (a.run s).Agrees (Solving.IsAt e lent) (a.evaluate c p) := by
  have hsingle (result : Except ErrorStack Reply) (solver : Solver level.Term) :
      (Execution.single (.solverAction level a) result { s with solver }).Agrees
        (Solving.IsAt e lent) (.single (.solverAction level a) c result { p with solver }) := by
    have hat : Solving.IsAt e lent { s with solver } { p with solver } := ⟨hs.state_eq, rfl⟩
    exact Execution.Agrees.single hat (hat.shows hc)
  have hsolver := hs.solver_eq
  cases a with
  | freshUnknown | fresh =>
    simp only [run, evaluate, hsolver]
    cases p.solver.fresh? with
    | none => exact Execution.Agrees.exhausted
    | some found => exact hsingle _ found.2
  | solve u t =>
    simp only [run, evaluate, hsolver]
    cases p.solver.solve u t with
    | error failure =>
      rw [← hsolver]
      exact hsingle _ s.solver
    | ok solver => exact hsingle _ solver
  | apply t | substitution | fail stack =>
    simp only [run, evaluate, ← hsolver]
    exact hsingle _ s.solver

end Actions

/-! ## Commands with a body -/

/-- The runs and the evaluations of a check program agree. -/
def CheckProgram.Agrees (body : CheckProgram) : Prop :=
  ∀ {c : Context} {e : Environment}, c.Shows e → ∀ {s : Session} {p : Progress}, s.IsAt e p →
    (body.run s).Agrees (Session.IsAt e) (body.evaluate c p)

/-- The runs and the evaluations of a solver program agree. -/
def SolverProgram.Agrees {level : Level} (body : SolverProgram level) : Prop :=
  ∀ {c : Context} {e : Environment}, c.Shows e → ∀ {lent : Nat} {s : Solving level}
    {p : SolverProgress level}, s.IsAt e lent p →
    (body.run s).Agrees (Solving.IsAt e lent) (body.evaluate c lent p)

section Bodies

variable {c : Context} {e : Environment}

theorem Wrapper.run_agrees (w : Wrapper) (hw : w ≠ .attempt) {body : CheckProgram}
    (inside : body.Agrees) (hc : c.Shows e) {s : Session} {p : Progress} (hs : s.IsAt e p) :
    (w.bracket.around body.run s).Agrees (Session.IsAt e) (w.evaluate body.evaluate c p) := by
  cases w with
  | attempt => exact absurd rfl hw
  | context frame | rethrow changes =>
    refine Execution.Agrees.around rfl (inside hc hs) (hs.shows hc) ?_ fun _ _ => rfl
    intro t r ht
    exact ⟨rfl, ht, ht.shows hc⟩
  | scope added =>
    have hinner : (c.push added).Shows (added.extend e) := hc.push added
    have henter : Session.IsAt (added.extend e) (s.modifyEnvironment added.extend) p := by
      unfold Session.IsAt Session.modifyEnvironment
      rw [hs]
    refine Execution.Agrees.around rfl (inside hinner henter) (henter.shows hinner) ?_
      fun _ _ => rfl
    intro t r ht
    -- the body has left the extended environment as it was, so putting one field back is
    -- enough to undo the extension
    have hleave : Session.IsAt e
        (t.modifyEnvironment (added.field.restore s.state.environment)) r := by
      unfold Session.IsAt Session.modifyEnvironment
      rw [ht, hs, Field.restore_extend]
    exact ⟨rfl, hleave, hleave.shows hc⟩

theorem Bridge.run_agrees {level : Level} (b : Bridge) {body : SolverProgram level}
    (inside : body.Agrees) (hc : c.Shows e) {s : Session} {p : Progress} (hs : s.IsAt e p) :
    ((b.bracket level).around body.run s).Agrees (Session.IsAt e)
      (b.evaluate level body.evaluate c p) := by
  have hstarted (first : Nat) : Solving.IsAt e p.nextUnknown ⟨s, .start first⟩
      (⟨.start first, p.nextDictionary, p.currentModule⟩ : SolverProgress level) := ⟨hs, rfl⟩
  cases b with
  | lift =>
    have hfirst : s.state.nextUnknown = p.nextUnknown := by rw [hs]
    -- the solver starts from the counter of the session
    have henter : Solving.IsAt e p.nextUnknown ((Bridge.lift.bracket level).enter s)
        ⟨.start p.nextUnknown, p.nextDictionary, p.currentModule⟩ := by
      show Solving.IsAt e p.nextUnknown ⟨s, .start s.state.nextUnknown⟩ _
      rw [hfirst]
      exact hstarted p.nextUnknown
    refine Execution.Agrees.around rfl (inside hc henter) (henter.shows hc) ?_ fun _ _ => rfl
    intro t q ht
    have hleave : Session.IsAt e
        { t.session with state.nextUnknown := t.solver.nextUnknown }
        ⟨q.solver.nextUnknown, q.nextDictionary, q.currentModule⟩ := by
      show State.mk t.session.state.environment t.solver.nextUnknown
        t.session.state.nextDictionary t.session.state.currentModule = _
      rw [ht.state_eq, ht.solver_eq]
    refine ⟨?_, hleave, hleave.shows hc⟩
    show Except.ok (Reply.solved level t.solver.substitution) = _
    rw [ht.solver_eq]
  | standalone first =>
    have henter := hstarted first
    refine Execution.Agrees.around rfl (inside hc henter) (henter.shows hc) ?_ fun _ _ => rfl
    intro t q ht
    -- the session still has the counter that it has lent
    have hleave : Session.IsAt e t.session ⟨p.nextUnknown, q.nextDictionary, q.currentModule⟩ :=
      ht.state_eq
    refine ⟨?_, hleave, hleave.shows hc⟩
    show Except.ok (Reply.solvedUpTo level t.solver.nextUnknown t.solver.substitution) = _
    rw [ht.solver_eq]

theorem Solving.checkStep_agrees {level : Level} {body : CheckProgram} (inside : body.Agrees)
    (hc : c.Shows e) {lent : Nat} {s : Solving level} {p : SolverProgress level}
    (hs : s.IsAt e lent p) :
    ((Solving.checkStep level).around body.run s).Agrees (Solving.IsAt e lent)
      (SolverProgress.checkStep level body.evaluate c lent p) := by
  have hlent : s.session.state.nextUnknown = lent := by rw [hs.state_eq]
  have henter : Session.IsAt e ((Solving.checkStep level).enter s)
      ⟨max lent p.solver.nextUnknown, p.nextDictionary, p.currentModule⟩ := by
    show State.mk s.session.state.environment
      (max s.session.state.nextUnknown s.solver.nextUnknown)
      s.session.state.nextDictionary s.session.state.currentModule = _
    rw [hs.state_eq, hs.solver_eq]
  refine Execution.Agrees.around rfl (inside hc henter) (henter.shows hc) ?_ fun _ _ => rfl
  intro t q ht
  have hleave : Solving.IsAt e lent ((Solving.checkStep level).leave s none t).2
      ⟨{ p.solver with nextUnknown := max p.solver.nextUnknown q.nextUnknown },
        q.nextDictionary, q.currentModule⟩ := by
    constructor
    · -- the session gets back the counter that an evaluation has never taken from it
      show State.mk t.state.environment s.session.state.nextUnknown
        t.state.nextDictionary t.state.currentModule = _
      rw [ht, hlent]
    · show Solver.mk (max s.solver.nextUnknown t.state.nextUnknown) s.solver.substitution = _
      rw [ht, hs.solver_eq]
  exact ⟨rfl, hleave, hleave.shows hc⟩

end Bodies

/-! ## Programs -/

mutual

/-- Every lexical program agrees with its evaluation: one case for each constructor of the
four kinds of program and command. -/
theorem CheckProgram.agrees : (body : CheckProgram) → body.isLexical = true → body.Agrees
  | .done, _, _, _, _, _, _, hs => Execution.Agrees.idle hs
  | .step command rest, h, c, e, hc, s, p, hs => by
    rw [CheckProgram.isLexical, Bool.and_eq_true] at h
    exact (command.agrees h.1 hc hs).andThen fun t r ht => rest.agrees h.2 hc ht

theorem CheckCommand.agrees : (command : CheckCommand) → command.isLexical = true →
    {c : Context} → {e : Environment} → c.Shows e → {s : Session} → {p : Progress} → s.IsAt e p →
    (command.run s).Agrees (Session.IsAt e) (command.evaluate c p)
  | .act a, h, _, _, hc, _, _, hs => a.run_agrees h hc hs
  | .wrap w body, h, _, _, hc, _, _, hs => by
    rw [CheckCommand.isLexical, Bool.and_eq_true, bne_iff_ne] at h
    exact w.run_agrees h.1 (body.agrees h.2) hc hs
  | .unify level b body, h, _, _, hc, _, _, hs => by
    rw [CheckCommand.isLexical] at h
    exact b.run_agrees (body.agrees h) hc hs

theorem SolverProgram.agrees : {level : Level} → (body : SolverProgram level) →
    body.isLexical = true → body.Agrees
  | _, .done, _, _, _, _, _, _, _, hs => Execution.Agrees.idle hs
  | _, .step command rest, h, c, e, hc, lent, s, p, hs => by
    rw [SolverProgram.isLexical, Bool.and_eq_true] at h
    exact (command.agrees h.1 hc hs).andThen fun t r ht => rest.agrees h.2 hc ht

theorem SolverCommand.agrees : {level : Level} → (command : SolverCommand level) →
    command.isLexical = true → {c : Context} → {e : Environment} → c.Shows e → {lent : Nat} →
    {s : Solving level} → {p : SolverProgress level} → s.IsAt e lent p →
    (command.run s).Agrees (Solving.IsAt e lent) (command.evaluate c lent p)
  | _, .act a, _, _, _, hc, _, _, _, hs => a.run_agrees hc hs
  | _, .attempt body, h, _, _, _, _, _, _, _ => absurd h (by simp [SolverCommand.isLexical])
  | _, .check body, h, _, _, hc, _, _, _, hs => by
    rw [SolverCommand.isLexical] at h
    exact Solving.checkStep_agrees (body.agrees h) hc hs

end

/-- **Scopes are lexical.** Take a program that neither edits the environment nor catches
failures, and any session to run it in. The run tells the same as the evaluation of the
program outside of all scopes: the same commands in the same order, with the same answers
and failures, in an environment that shows the context of each command; only where a
failure crosses a bracket is the environment not asked. Both finish, or fail with the same
stack, or run out of unknowns. When they finish, the session has the environment of the
start again, and for the rest what the evaluation hands on. -/
theorem CheckProgram.lexically_scoped (body : CheckProgram) (h : body.isLexical = true)
    (s : Session) :
    let evaluation := body.evaluate ⟨[], s.state.environment⟩ s.state.progress
    List.Forall₂ Event.Agrees (body.run s).trace evaluation.notes ∧
      (body.run s).outcome.Agrees
        (fun t p => t.state.environment = s.state.environment ∧ t.state.progress = p)
        evaluation.conclusion := by
  have houtside := Context.shows_outside s.state.environment
  have hs : s.IsAt s.state.environment s.state.progress := rfl
  have hagrees := body.agrees h houtside hs
  refine ⟨hagrees.trace, hagrees.outcome.mono ?_⟩
  intro t p ht
  rw [ht]
  exact ⟨rfl, rfl⟩

/-- Asks for a name in two scopes that hide it, the inner one with two entries for it and
from inside a solver; then behind the inner scope, and behind both. -/
def CheckProgram.shadowing : CheckProgram :=
  let main : ModuleName := ⟨["Main"]⟩
  let ask : CheckCommand := .act (.typeOf main ⟨none, "x"⟩)
  .ofList [
    .wrap (.scope (.names [(⟨main, "x"⟩, ⟨.var "outer", .declared⟩)])) (.ofList [
      .wrap (.scope (.localVariables main [("x", .var "first"), ("x", .var "last")])) (.ofList [
        .unify .type .lift (.ofList [.act .freshUnknown, .check (.ofList [ask])])]),
      ask]),
    ask]

theorem CheckProgram.shadowing_agrees :
    let start : Environment :=
      ⟨(∅ : Table NameEntry).insert ⟨⟨["Main"]⟩, "x"⟩ ⟨.var "start", .declared⟩, ∅, []⟩
    let execution := shadowing.run (.start start ∅)
    let evaluation := shadowing.evaluate ⟨[], start⟩ ⟨0, 0, none⟩
    shadowing.isLexical = true ∧
      List.Forall₂ Event.Agrees execution.trace evaluation.notes ∧
      evaluation.notes.map Note.stage =
        [.entered, .entered, .entered, .finished (.unknown 0),
          .entered, .finished (.type (.var "last")), .finished .nothing,
          .finished (.solved .type ∅), .finished .nothing,
          .finished (.type (.var "outer")), .finished .nothing,
          .finished (.type (.var "start"))] ∧
      ∃ t, execution.outcome = .finished t ∧ t.state.environment = start ∧
        t.state.progress = ⟨1, 0, none⟩ := by
  intro start execution evaluation
  have hlexical : shadowing.isLexical = true := rfl
  obtain ⟨htrace, houtcome⟩ := lexically_scoped shadowing hlexical (.start start ∅)
  have hconclusion : evaluation.conclusion = .finished ⟨1, 0, none⟩ := rfl
  have hagrees : execution.outcome.Agrees _ evaluation.conclusion := houtcome
  rw [hconclusion] at hagrees
  obtain ⟨t, hfinished, henvironment, hprogress⟩ := hagrees.exists_of_finished
  refine ⟨hlexical, htrace, ?_, t, hfinished, henvironment, hprogress⟩
  decide +kernel

end TypingSession
