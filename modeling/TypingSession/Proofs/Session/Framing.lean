import Mathlib.Data.List.Forall2
import TypingSession.Proofs.Failure.Amendments
import TypingSession.Proofs.Session.Aftermath
import TypingSession.Session.Series

/-!
# TypingSession — context around failures

A context puts a frame around the failure of its body, and a rethrow may put several. Take
them all away from a program, their bodies kept, and what is left (`CheckProgram.bare`)
does the same in the same states. Only its failures are bare: what they lack is the frames
of the wrappers around the action that has failed, the outermost wrapper first.

The brackets around a failed action are those that its failure has crossed, and these are
known from `Trace.FailsAt`, the innermost first. Each of them puts its frames in front as
the failure passes, and so the frames of the outermost come to stand first
(`contextOf`).

* `Execution.Extends` — an execution does what another does, with context in front of its
  failures.
* `CheckProgram.run_extends` — the run of a program extends that of the bare program.
* `CheckProgram.context_is_path` — context is a path to the failed action and nothing else.
-/

namespace TypingSession

/-! ## What is put in front of a failure -/

namespace Wrapper

/-- Whether a wrapper is there for the failures of its body and nothing else. -/
def isContext : Wrapper → Bool
  | context _ | rethrow _ => true
  | attempt | scope _ => false

/-- Whether a wrapper does no more to a failure than to put frames in front. -/
def onlyAdds : Wrapper → Bool
  | rethrow changes => changes.all Amendment.onlyAdds
  | attempt | context _ | scope _ => true

/-- The frames that a wrapper puts in front of the failure of its body. -/
def frames : Wrapper → List Frame
  | context frame => [frame]
  | rethrow changes => changes.reverse.flatMap Amendment.frames
  | attempt | scope _ => []

/-- A context leaves everything to its body but the stack of a failure. -/
theorem leave_of_isContext {w : Wrapper} (hw : w.isContext = true) (h : w.onlyAdds = true)
    (s t : Session) :
    w.bracket.leave s none t = (.ok .nothing, t) ∧
      ∀ stack, ∃ outer, w.bracket.leave s (some stack) t = (.error outer, t) ∧
        outer.toList = w.frames ++ stack.toList := by
  cases w with
  | attempt | scope added => exact absurd hw (by simp [isContext])
  | context frame => exact ⟨rfl, fun stack => ⟨stack.pushOuter frame, rfl, rfl⟩⟩
  | rethrow changes =>
    exact ⟨rfl, fun stack => ⟨Amendment.applyAll changes stack, rfl, Amendment.toList_applyAll h stack⟩⟩

end Wrapper

/-- Whether a command is there for the failures of its body and nothing else. -/
def Subject.isContext : Subject → Bool
  | wrapper w => w.isContext
  | action _ | bridge _ _ | solverAction _ _ | solverAttempt _ | checkStep _ => false

/-- The frames that a command puts in front of the failure of its body. -/
def Subject.frames : Subject → List Frame
  | wrapper w => w.frames
  | action _ | bridge _ _ | solverAction _ _ | solverAttempt _ | checkStep _ => []

theorem Subject.frames_of_not_isContext {subject : Subject} (h : subject.isContext = false) :
    subject.frames = [] := by
  cases subject with
  | wrapper w =>
    cases w with
    | attempt | scope added => rfl
    | context frame | rethrow changes => exact absurd h (by simp [isContext, Wrapper.isContext])
  | action a | bridge level b | solverAction level a | solverAttempt level | checkStep level => rfl

/-- The frames in front of a failure that has crossed some brackets, the innermost of them
first: those of the outermost bracket first. -/
def contextOf (crossed : List Event) : List Frame :=
  crossed.reverse.flatMap fun opening => opening.subject.frames

theorem contextOf_concat (crossed : List Event) (opening : Event) :
    contextOf (crossed ++ [opening]) = opening.subject.frames ++ contextOf crossed := by
  unfold contextOf
  rw [List.reverse_append, List.reverse_singleton, List.singleton_append, List.flatMap_cons]

/-! ## Programs without context -/

/-- One check program after another. -/
def CheckProgram.append : CheckProgram → CheckProgram → CheckProgram
  | .done, q => q
  | .step command rest, q => .step command (rest.append q)

theorem CheckProgram.run_append : (p q : CheckProgram) → (s : Session) →
    (p.append q).run s = (p.run s).andThen q.run
  | .done, q, s => by
    rw [append, run, Execution.idle_andThen]
  | .step command rest, q, s => by
    have hrest : (rest.append q).run = fun t => (rest.run t).andThen q.run :=
      funext (run_append rest q)
    rw [append, run, run, Execution.andThen_assoc, hrest]

mutual

/-- A check program without its contexts and rethrows, their bodies kept. -/
def CheckProgram.bare : CheckProgram → CheckProgram
  | .done => .done
  | .step command rest => command.bare.append rest.bare

/-- What is left of a check command without its contexts and rethrows. -/
def CheckCommand.bare : CheckCommand → CheckProgram
  | .act a => .step (.act a) .done
  | .wrap w body => if w.isContext then body.bare else .step (.wrap w body.bare) .done
  | .unify level b body => .step (.unify level b body.bare) .done

/-- A solver program without the contexts and rethrows of its check programs. -/
def SolverProgram.bare : {level : Level} → SolverProgram level → SolverProgram level
  | _, .done => .done
  | _, .step command rest => .step command.bare rest.bare

/-- A solver command without the contexts and rethrows of its check programs. -/
def SolverCommand.bare : {level : Level} → SolverCommand level → SolverCommand level
  | _, .act a => .act a
  | _, .attempt body => .attempt body.bare
  | _, .check body => .check body.bare

end

mutual

/-- Whether every rethrow of a check program only puts frames in front. -/
def CheckProgram.onlyAdds : CheckProgram → Bool
  | .done => true
  | .step command rest => command.onlyAdds && rest.onlyAdds

/-- The same of a check command. -/
def CheckCommand.onlyAdds : CheckCommand → Bool
  | .act _ => true
  | .wrap w body => w.onlyAdds && body.onlyAdds
  | .unify _ _ body => body.onlyAdds

/-- The same of a solver program. -/
def SolverProgram.onlyAdds : {level : Level} → SolverProgram level → Bool
  | _, .done => true
  | _, .step command rest => command.onlyAdds && rest.onlyAdds

/-- The same of a solver command. -/
def SolverCommand.onlyAdds : {level : Level} → SolverCommand level → Bool
  | _, .act _ => true
  | _, .attempt body => body.onlyAdds
  | _, .check body => body.onlyAdds

end

/-! ## Traces with and without context -/

/-- A stage tells what another tells, with context in front of a failure. -/
inductive Stage.Extends : Stage → Stage → Prop where
  | same (stage : Stage) : Extends stage stage
  | failed {stack stack' : ErrorStack} (h : stack'.toList <:+ stack.toList) :
    Extends (failed stack) (failed stack')
  | caught {stack stack' : ErrorStack} (h : stack'.toList <:+ stack.toList) :
    Extends (finished (.caught (some stack))) (finished (.caught (some stack')))

/-- An event tells what another tells, with context in front of the failure of a bracket. -/
structure Event.Extends (ev ev' : Event) : Prop where
  subject_eq : ev.subject = ev'.subject
  moment_eq : ev.moment = ev'.moment
  stage : ev.stage.Extends ev'.stage
  action_eq : ev.subject.isBracket = false → ev = ev'

theorem Event.Extends.refl (ev : Event) : ev.Extends ev := ⟨rfl, rfl, .same ev.stage, fun _ => rfl⟩

theorem Event.Extends.of_isBracket {subject : Subject} (h : subject.isBracket = true)
    {stage stage' : Stage} (hstage : stage.Extends stage') (m : Moment) :
    Event.Extends ⟨subject, stage, m⟩ ⟨subject, stage', m⟩ :=
  ⟨rfl, rfl, hstage, fun haction => absurd (h.symm.trans haction) (by simp)⟩

namespace Trace

/-- A trace without the events of contexts and rethrows. -/
def bare (t : Trace) : Trace := t.filter fun ev => !ev.subject.isContext

/-- The events of a trace that tell of actions. -/
def actions (t : Trace) : Trace := t.filter fun ev => !ev.subject.isBracket

theorem actions_bare (t : Trace) : t.bare.actions = t.actions := by
  unfold bare actions
  rw [List.filter_filter]
  congr 1
  funext ev
  -- no action is a context
  cases hsubject : ev.subject <;> simp [Subject.isBracket, Subject.isContext]

theorem actions_eq {t t' : Trace} (h : List.Forall₂ Event.Extends t t') : t.actions = t'.actions := by
  induction h with
  | nil => rfl
  | @cons ev ev' rest rest' hev _ ih =>
    unfold actions at ih ⊢
    cases hbracket : ev.subject.isBracket with
    | true =>
      rw [List.filter_cons_of_neg (by simp [hbracket]),
        List.filter_cons_of_neg (by simp [← hev.subject_eq, hbracket]), ih]
    | false =>
      obtain rfl := hev.action_eq hbracket
      rw [List.filter_cons_of_pos (by simp [hbracket]),
        List.filter_cons_of_pos (by simp [hbracket]), ih]

@[simp] theorem bare_nil : bare [] = [] := rfl

theorem bare_append (t t' : Trace) : (t ++ t').bare = t.bare ++ t'.bare := List.filter_append _ _

theorem bare_cons_of_isContext {ev : Event} (h : ev.subject.isContext = true) (t : Trace) :
    bare (ev :: t) = t.bare :=
  List.filter_cons_of_neg (by simp [h])

theorem bare_cons {ev : Event} (h : ev.subject.isContext = false) (t : Trace) :
    bare (ev :: t) = ev :: t.bare :=
  List.filter_cons_of_pos (by simp [h])

/-- Neither event of a context is part of the bare trace. -/
theorem bare_enclosed_of_isContext {opening closing : Event}
    (hopening : opening.subject.isContext = true) (hclosing : closing.subject.isContext = true)
    (t : Trace) : bare (opening :: (t ++ [closing])) = t.bare := by
  rw [bare_cons_of_isContext hopening, bare_append, bare_cons_of_isContext hclosing, bare_nil,
    List.append_nil]

/-- Any other bracket opens and closes in both. -/
theorem extends_enclosed {opening closing closing' : Event}
    (hopening : opening.subject.isContext = false) (hclosing : closing.subject.isContext = false)
    {t t' : Trace} (h : List.Forall₂ Event.Extends t.bare t') (hextends : closing.Extends closing') :
    List.Forall₂ Event.Extends (bare (opening :: (t ++ [closing])))
      (opening :: (t' ++ [closing'])) := by
  rw [bare_cons hopening, bare_append, bare_cons hclosing, bare_nil]
  exact .cons (.refl opening) (List.rel_append h (.cons hextends .nil))

end Trace

/-! ## Executions with and without context -/

namespace Bracket

variable {σ τ : Type} [Observable σ] [Observable τ] {b : Bracket σ τ} {body : τ → Execution τ}
  {s : σ}

/-- A bracket hands on the failure of its body as it is, in a state that does not depend on
what the failure says. -/
def HandsOn (b : Bracket σ τ) : Prop :=
  ∀ s t, ∃ s', ∀ stack, b.leave s (some stack) t = (.error stack, s')

/-- A bracket answers with the failure of its body, in a state that does not depend on what
the failure says. -/
def Catches (b : Bracket σ τ) : Prop :=
  ∀ s t, ∃ s', ∀ stack, b.leave s (some stack) t = (.ok (.caught (some stack)), s')

end Bracket

namespace Execution

variable {σ τ : Type} [Observable σ] [Observable τ]

/-- Two executions end in the same way and in the same state. If they fail, they fail at the
same action, with the stack of that action; but in front of the first of the two stands the
context of the brackets around it, and the second has crossed no context. -/
inductive EndsLike (e e' : Execution σ) : Prop where
  | finished {t : σ} (ends : e.outcome = .finished t) (ends' : e'.outcome = .finished t)
  | exhausted (ends : e.outcome = .exhausted) (ends' : e'.outcome = .exhausted)
  | failed {stack origin : ErrorStack} {t : σ} {ev : Event}
    {crossed : List Event}
    (ends : e.outcome = .failed stack t) (ends' : e'.outcome = .failed origin t)
    (stack_eq : stack.toList = contextOf crossed ++ origin.toList)
    (stage_eq : ev.stage = .failed origin)
    (failsAt : ∃ before after, e.trace.FailsAt before ev after crossed)
    (failsAt' : ∃ before after, e'.trace.FailsAt before ev after (Trace.bare crossed))

/-- An execution does what another does, with context in front of its failures. -/
structure Extends (e e' : Execution σ) : Prop where
  trace : List.Forall₂ Event.Extends e.trace.bare e'.trace
  ends : e.EndsLike e'

namespace Extends

omit [Observable σ] in
theorem idle (s : σ) : (Execution.idle s).Extends (.idle s) := ⟨.nil, .finished rfl rfl⟩

omit [Observable σ] in
theorem exhausted : (Execution.exhausted : Execution σ).Extends .exhausted :=
  ⟨.nil, .exhausted rfl rfl⟩

theorem single {subject : Subject} (hsubject : subject.isBracket = false)
    (result : Except ErrorStack Reply) (t : σ) :
    (Execution.single subject result t).Extends (.single subject result t) := by
  have hcontext : subject.isContext = false := by
    cases subject with
    | wrapper w => exact absurd hsubject (by simp [Subject.isBracket])
    | _ => rfl
  rw [single_eq]
  constructor
  · rw [Trace.bare_cons hcontext]
    exact .cons (.refl _) .nil
  · cases result with
    | ok reply => exact .finished rfl rfl
    | error stack =>
      have hat : Trace.FailsAt [⟨subject, .failed stack, Observable.moment t⟩] []
          ⟨subject, .failed stack, Observable.moment t⟩ [] [] :=
        ⟨rfl, hsubject, rfl, fun _ => rfl, rfl, fun _ h => absurd h List.not_mem_nil⟩
      exact .failed rfl rfl rfl rfl ⟨[], [], hat⟩ ⟨[], [], hat⟩

omit [Observable σ] in
theorem andThen {e e' : Execution σ} {next next' : σ → Execution σ}
    (hbalanced : ∀ t, e.outcome = .finished t → e.trace.Balanced)
    (hbalanced' : ∀ t, e'.outcome = .finished t → e'.trace.Balanced)
    (first : e.Extends e') (second : ∀ t, (next t).Extends (next' t)) :
    (e.andThen next).Extends (e'.andThen next') := by
  obtain ⟨htrace, hends⟩ := first
  cases hends with
  | finished ends ends' =>
    rename_i t
    obtain ⟨hrest, hrestEnds⟩ := second t
    rw [andThen_of_finished ends, andThen_of_finished ends']
    refine ⟨?_, ?_⟩
    · rw [Trace.bare_append]
      exact List.rel_append htrace hrest
    · cases hrestEnds with
      | finished ends ends' => exact .finished ends ends'
      | exhausted ends ends' => exact .exhausted ends ends'
      | failed hstack hstack' stack_eq stage_eq failsAt failsAt' =>
        -- what has run before the failure has closed its brackets in both
        obtain ⟨before, after, hat⟩ := failsAt
        obtain ⟨before', after', hat'⟩ := failsAt'
        exact .failed hstack hstack' stack_eq stage_eq
          ⟨_, _, hat.append_left (hbalanced t ends)⟩ ⟨_, _, hat'.append_left (hbalanced' t ends')⟩
  | exhausted ends ends' =>
    rw [andThen_of_not_finished (by simp [ends]), andThen_of_not_finished (by simp [ends'])]
    exact ⟨htrace, .exhausted ends ends'⟩
  | failed ends ends' stack_eq stage_eq failsAt failsAt' =>
    rw [andThen_of_not_finished (by simp [ends]), andThen_of_not_finished (by simp [ends'])]
    exact ⟨htrace, .failed ends ends' stack_eq stage_eq failsAt failsAt'⟩

/-- A bracket that is no context, around two bodies of which one extends the other. -/
theorem around {b : Bracket σ τ} (hb : b.Completes) (hfailed : b.HandsOn ∨ b.Catches)
    (hbracket : b.subject.isBracket = true) (hcontext : b.subject.isContext = false)
    {body body' : τ → Execution τ} {s : σ}
    (inside : (body (b.enter s)).Extends (body' (b.enter s))) :
    (b.around body s).Extends (b.around body' s) := by
  obtain ⟨htrace, hends⟩ := inside
  cases hends with
  | exhausted ends ends' =>
    rw [Bracket.around_of_exhausted ends, Bracket.around_of_exhausted ends']
    refine ⟨?_, .exhausted rfl rfl⟩
    rw [Trace.bare_cons hcontext]
    exact .cons (.refl _) htrace
  | @finished t ends ends' =>
    obtain ⟨reply, hreply⟩ := hb s t
    have hleave : b.leave s none t = (.ok reply, (b.leave s none t).2) := by rw [← hreply]
    rw [Bracket.around_of_leave none ends hleave,
      Bracket.around_of_leave none ends' hleave]
    exact ⟨Trace.extends_enclosed hcontext hcontext htrace (.refl _), .finished rfl rfl⟩
  | @failed stack origin t ev crossed ends ends' stack_eq stage_eq failsAt failsAt' =>
    have hsuffix : origin.toList <:+ stack.toList := ⟨contextOf crossed, stack_eq.symm⟩
    rcases hfailed with hhandsOn | hcatches
    · -- the bracket is crossed in both, and puts nothing in front
      obtain ⟨s', hleave⟩ := hhandsOn s t
      rw [Bracket.around_of_leave (some stack) ends (hleave stack),
        Bracket.around_of_leave (some origin) ends' (hleave origin)]
      have hclosing := Event.Extends.of_isBracket hbracket (.failed hsuffix) (Observable.moment s')
      have hcontextOf : stack.toList = contextOf (crossed ++ [b.opening s]) ++ origin.toList := by
        rw [contextOf_concat, Bracket.opening, Subject.frames_of_not_isContext hcontext,
          List.nil_append, stack_eq]
      have hcrossed : Trace.bare (crossed ++ [b.opening s]) =
          Trace.bare crossed ++ [b.opening s] := by
        rw [Trace.bare_append, Trace.bare_cons hcontext, Trace.bare_nil]
      refine ⟨Trace.extends_enclosed hcontext hcontext htrace hclosing, ?_⟩
      obtain ⟨before, after, hat⟩ := failsAt
      obtain ⟨before', after', hat'⟩ := failsAt'
      refine .failed rfl rfl hcontextOf stage_eq ⟨_, _, hat.enclosed rfl rfl rfl hbracket⟩ ?_
      rw [hcrossed]
      exact ⟨_, _, hat'.enclosed rfl rfl rfl hbracket⟩
    · -- the failure ends here, and is told in the answer
      obtain ⟨s', hleave⟩ := hcatches s t
      rw [Bracket.around_of_leave (some stack) ends (hleave stack),
        Bracket.around_of_leave (some origin) ends' (hleave origin)]
      have hclosing := Event.Extends.of_isBracket hbracket (.caught hsuffix) (Observable.moment s')
      exact ⟨Trace.extends_enclosed hcontext hcontext htrace hclosing, .finished rfl rfl⟩

/-- A context around a body, beside the other body alone. -/
theorem context {w : Wrapper} (hw : w.isContext = true) (hadds : w.onlyAdds = true)
    {body body' : Session → Execution Session} {s : Session}
    (inside : (body s).Extends (body' s)) : (w.bracket.around body s).Extends (body' s) := by
  have henter : w.bracket.enter s = s := by
    cases w with
    | scope added => exact absurd hw (by simp [Wrapper.isContext])
    | attempt | context frame | rethrow changes => rfl
  have hcontext : w.bracket.subject.isContext = true := hw
  obtain ⟨htrace, hends⟩ := inside
  cases hends with
  | exhausted ends ends' =>
    rw [Bracket.around_of_exhausted (by rw [henter, ends]), henter]
    refine ⟨?_, .exhausted rfl ends'⟩
    rw [Trace.bare_cons_of_isContext hcontext]
    exact htrace
  | @finished t ends ends' =>
    obtain ⟨hleave, -⟩ := Wrapper.leave_of_isContext hw hadds s t
    rw [Bracket.around_of_leave none (by rw [henter, ends]; rfl) hleave, henter]
    refine ⟨?_, .finished rfl ends'⟩
    rw [Trace.bare_enclosed_of_isContext hcontext hcontext]
    exact htrace
  | @failed stack origin t ev crossed ends ends' stack_eq stage_eq failsAt failsAt' =>
    obtain ⟨-, hfailed⟩ := Wrapper.leave_of_isContext hw hadds s t
    obtain ⟨outer, hleave, houter⟩ := hfailed stack
    have hcontextOf : outer.toList = contextOf (crossed ++ [w.bracket.opening s]) ++ origin.toList := by
      rw [contextOf_concat, houter, stack_eq, List.append_assoc]
      rfl
    have hcrossed : Trace.bare (crossed ++ [w.bracket.opening s]) = Trace.bare crossed := by
      rw [Trace.bare_append, Trace.bare_cons_of_isContext hcontext, Trace.bare_nil,
        List.append_nil]
    rw [Bracket.around_of_leave (some stack) (by rw [henter, ends]; rfl) hleave, henter]
    obtain ⟨before, after, hat⟩ := failsAt
    refine ⟨?_, .failed rfl ends' hcontextOf stage_eq ⟨_, _, hat.enclosed rfl rfl rfl rfl⟩ ?_⟩
    · rw [Trace.bare_enclosed_of_isContext hcontext hcontext]
      exact htrace
    · rw [hcrossed]
      exact failsAt'

end Extends

end Execution

/-! ## Brackets -/

theorem Wrapper.handsOn_or_catches {w : Wrapper} (h : w.isContext = false) :
    w.bracket.HandsOn ∨ w.bracket.Catches := by
  cases w with
  | attempt => exact Or.inr fun _ t => ⟨t, fun _ => rfl⟩
  | scope added => exact Or.inl fun _ t => ⟨t, fun _ => rfl⟩
  | context frame | rethrow changes => exact absurd h (by simp [isContext])

theorem Bridge.bracket_handsOn (level : Level) (b : Bridge) : (b.bracket level).HandsOn := by
  intro s t
  cases b <;> exact ⟨t.session, fun _ => rfl⟩

theorem Solving.attempt_catches (level : Level) : (Solving.attempt level).Catches :=
  fun _ t => ⟨t, fun _ => rfl⟩

theorem Solving.checkStep_handsOn (level : Level) : (Solving.checkStep level).HandsOn :=
  fun _ _ => ⟨_, fun _ => rfl⟩

theorem SolverAction.run_extends {level : Level} (a : SolverAction level) (s : Solving level) :
    (a.run s).Extends (a.run s) := by
  rcases a.run_cases s with ⟨heq, -⟩ | ⟨-, reply, -, heq⟩ | ⟨result, t, heq, -⟩
  · rw [heq]
    exact Execution.Extends.exhausted
  · rw [heq]
    exact Execution.Extends.single rfl _ _
  · rw [heq]
    exact Execution.Extends.single rfl _ _

/-! ## Programs -/

theorem Execution.Unwinds.balanced_of_finished {σ : Type} [Observable σ]
    {Q : σ → List Event → Event → Prop} {e : Execution σ} (h : e.Unwinds Q) (t : σ)
    (ht : e.outcome = .finished t) : e.trace.Balanced :=
  h.balanced t (by rw [ht]; rfl)

mutual

/-- The run of a program extends that of the bare program: one case for each constructor
of the four kinds of program and command. -/
theorem CheckProgram.run_extends : (p : CheckProgram) → p.onlyAdds = true → (s : Session) →
    (p.run s).Extends (p.bare.run s)
  | .done, _, s => Execution.Extends.idle s
  | .step command rest, h, s => by
    rw [CheckProgram.onlyAdds, Bool.and_eq_true] at h
    rw [CheckProgram.run, CheckProgram.bare, CheckProgram.run_append]
    exact Execution.Extends.andThen
      (Execution.unwinds_law.checkCommand command s).balanced_of_finished
      (Execution.unwinds_law.checkProgram command.bare s).balanced_of_finished
      (command.run_extends h.1 s) (rest.run_extends h.2)

theorem CheckCommand.run_extends : (command : CheckCommand) → command.onlyAdds = true →
    (s : Session) → (command.run s).Extends (command.bare.run s)
  | .act a, _, s => by
    rw [CheckCommand.bare, CheckProgram.run_step_done]
    exact Execution.Extends.single rfl _ _
  | .wrap w body, h, s => by
    rw [CheckCommand.onlyAdds, Bool.and_eq_true] at h
    cases hw : w.isContext with
    | true =>
      rw [CheckCommand.bare, if_pos hw, CheckCommand.run]
      exact Execution.Extends.context hw h.1 (body.run_extends h.2 s)
    | false =>
      rw [CheckCommand.bare, if_neg (by simp [hw]), CheckProgram.run_step_done]
      exact Execution.Extends.around w.bracket_completes (Wrapper.handsOn_or_catches hw) rfl hw
        (body.run_extends h.2 _)
  | .unify level b body, h, s => by
    rw [CheckCommand.onlyAdds] at h
    rw [CheckCommand.bare, CheckProgram.run_step_done]
    exact Execution.Extends.around (b.bracket_completes level) (Or.inl (b.bracket_handsOn level))
      rfl rfl (body.run_extends h _)

theorem SolverProgram.run_extends : {level : Level} → (p : SolverProgram level) →
    p.onlyAdds = true → (s : Solving level) → (p.run s).Extends (p.bare.run s)
  | _, .done, _, s => Execution.Extends.idle s
  | _, .step command rest, h, s => by
    rw [SolverProgram.onlyAdds, Bool.and_eq_true] at h
    rw [SolverProgram.run, SolverProgram.bare, SolverProgram.run]
    exact Execution.Extends.andThen
      (Execution.unwinds_law.solverCommand command s).balanced_of_finished
      (Execution.unwinds_law.solverCommand command.bare s).balanced_of_finished
      (command.run_extends h.1 s) (rest.run_extends h.2)

theorem SolverCommand.run_extends : {level : Level} → (command : SolverCommand level) →
    command.onlyAdds = true → (s : Solving level) → (command.run s).Extends (command.bare.run s)
  | _, .act a, _, s => a.run_extends s
  | level, .attempt body, h, s => by
    rw [SolverCommand.onlyAdds] at h
    exact Execution.Extends.around (Solving.attempt_completes level)
      (Or.inr (Solving.attempt_catches level)) rfl rfl (body.run_extends h _)
  | level, .check body, h, s => by
    rw [SolverCommand.onlyAdds] at h
    exact Execution.Extends.around (Solving.checkStep_completes level)
      (Or.inl (Solving.checkStep_handsOn level)) rfl rfl (body.run_extends h _)

end

/-- **Context is a path to the failed action and nothing else.** Take a program whose
rethrows only put frames in front, and any session to run it in. The bare program performs
the same actions in the same states, with the same answers and failures; and its other
commands show the same states, though a failure that they hand on or answer with may lack
context in front. Both finish, or both fail, or both run out of unknowns. When they fail,
they do so at the same action. The bare program fails with the stack of that action; and
the other with the same frames, behind those of the wrappers around the action, the
outermost wrapper first. So the stack is never empty, and its last frame is that of the
original failure. A request answers with the report of just this stack. -/
theorem CheckProgram.context_is_path (p : CheckProgram) (h : p.onlyAdds = true) :
    (∀ s : Session,
      List.Forall₂ Event.Extends (p.run s).trace.bare (p.bare.run s).trace ∧
      (p.run s).trace.actions = (p.bare.run s).trace.actions ∧
      (p.run s).EndsLike (p.bare.run s) ∧
      ∀ stack t, (p.run s).outcome = .failed stack t →
        stack.toList ≠ [] ∧ ∃ origin, (p.bare.run s).outcome = .failed origin t ∧
          stack.mostSpecific = origin.mostSpecific) ∧
    ∀ (verbose : Bool) (e : Environment) (shelf : Shelf) (origin : ErrorStack) (t : Session),
      let execution := p.run (.start e shelf)
      (p.bare.run (.start e shelf)).outcome = .failed origin t →
      ∃ ev crossed, (∃ before after, execution.trace.FailsAt before ev after crossed) ∧
        ev.stage = .failed origin ∧
        (⟨verbose, p⟩ : Request).run? e shelf = some (⟨execution.trace,
          .report (Frame.report verbose (contextOf crossed ++ origin.toList))⟩, e, t.shelf) := by
  constructor
  · intro s
    obtain ⟨htrace, hends⟩ := p.run_extends h s
    have hactions : (p.run s).trace.actions = (p.bare.run s).trace.actions := by
      rw [← Trace.actions_bare, Trace.actions_eq htrace]
    refine ⟨htrace, hactions, hends, ?_⟩
    intro stack t hfailed
    cases hends with
    | finished ends | exhausted ends => exact absurd (ends.symm.trans hfailed) (by simp)
    | @failed _ origin _ _ _ ends ends' stack_eq =>
      obtain ⟨rfl, rfl⟩ := Outcome.failed.inj (ends.symm.trans hfailed)
      exact ⟨ErrorStack.toList_ne_nil _, origin, ends', ErrorStack.mostSpecific_eq_of_toList stack_eq⟩
  · intro verbose e shelf origin t execution hfailed
    obtain ⟨-, hends⟩ := p.run_extends h (.start e shelf)
    cases hends with
    | finished _ ends' | exhausted _ ends' => exact absurd (ends'.symm.trans hfailed) (by simp)
    | failed ends ends' stack_eq stage_eq failsAt =>
      obtain ⟨rfl, rfl⟩ := Outcome.failed.inj (ends'.symm.trans hfailed)
      refine ⟨_, _, failsAt, stage_eq, ?_⟩
      rw [← stack_eq]
      simp only [Request.run?, ends]
      rfl

/-- A failure inside of two solvers and a scope, with contexts and a rethrow around them.
Another failure is caught on the way to it. -/
def CheckProgram.farOut : CheckProgram :=
  let plain (message : String) : Frame := ⟨message, none⟩
  .ofList [.wrap (.context (plain "a")) (.ofList [
    .wrap .attempt (.ofList [
      .wrap (.context (plain "caught")) (.ofList [.act (.fail (.single "no" none))])]),
    .wrap (.rethrow [.pushOuter (plain "d"), .prepend ⟨plain "b", [plain "c"]⟩]) (.ofList [
      .wrap (.scope (.dictionaries [])) (.ofList [
        .unify .type .lift (.ofList [.act .freshUnknown, .check (.ofList [
          .wrap (.context (plain "e")) (.ofList [
            .unify .kind (.standalone 5) (.ofList [
              .act (.fail (.single "f" none))])])])])])])])]

theorem CheckProgram.farOut_context :
    let execution := farOut.run (.start ∅ ∅)
    farOut.onlyAdds = true ∧
      execution.trace.actions = (farOut.bare.run (.start ∅ ∅)).trace.actions ∧
      execution.trace.actions.map Event.stage =
        [.failed (.single "no" none), .finished (.unknown 0), .failed (.single "f" none)] ∧
      ∃ ev crossed, (∃ before after, execution.trace.FailsAt before ev after crossed) ∧
        ev.stage = .failed (.single "f" none) ∧
        Frame.report true (contextOf crossed ++ [⟨"f", none⟩]) = "a\nb\nc\nd\ne\nf" := by
  intro execution
  have honly : farOut.onlyAdds = true := rfl
  obtain ⟨hruns, hanswers⟩ := context_is_path farOut honly
  obtain ⟨-, hactions, -⟩ := hruns (.start ∅ ∅)
  obtain ⟨ev, crossed, hat, hstage, hanswer⟩ := hanswers true ∅ ∅ (.single "f" none) _ rfl
  have hreport : (⟨true, farOut⟩ : Request).run? ∅ ∅ =
      some (⟨execution.trace, .report "a\nb\nc\nd\ne\nf"⟩, ∅, ∅) := rfl
  rw [hreport] at hanswer
  simp only [Option.some.injEq, Prod.mk.injEq, RunRecord.mk.injEq, Answer.report.injEq] at hanswer
  exact ⟨honly, hactions, rfl, ev, crossed, hat, hstage, hanswer.1.2.symm⟩

end TypingSession
