import TypingSession.Proofs.Session.Counter

/-!
# TypingSession — edits that do not get out

A scope puts one field of the environment back, and only when its body succeeds. A
failure that is caught inside therefore leaves the tables of the scopes that it has
crossed extended, and taking another environment replaces all three fields at once.
Such leaks are stopped by the next scope of the same field around them, and by no other.

A program *confines* a field when each command that may leak into it stands in a scope
of that field (`CheckProgram.Confines`). The fields are taken one at a time: a program
may confine one and not another.

* `CheckProgram.same_of_confines` — a run that succeeds leaves the field as it was.
* `CheckCommand.scope_finished` — a scope that succeeds touches its own field only.
-/

namespace TypingSession

/-! ## Fields -/

/-- Two environments have the same entries in a field. -/
def Field.Same (f : Field) (e e' : Environment) : Prop :=
  match f with
  | names => e.names = e'.names
  | types => e.types = e'.types
  | dictionaries => e.dictionaries = e'.dictionaries

namespace Field

variable {f g : Field} {e e' e'' : Environment}

theorem Same.refl (f : Field) (e : Environment) : f.Same e e := by
  cases f <;> rfl

theorem Same.trans (h : f.Same e e') (h' : f.Same e' e'') : f.Same e e'' := by
  cases f <;> exact Eq.trans h h'

theorem same_restore (f : Field) (earlier now : Environment) :
    f.Same (f.restore earlier now) earlier := by
  cases f <;> rfl

theorem same_restore_of_ne (h : g ≠ f) (earlier now : Environment) :
    g.Same (f.restore earlier now) now := by
  cases f <;> cases g <;> simp_all [Same, restore]

theorem same_extend (added : Scope) (h : g ≠ added.field) (e : Environment) :
    g.Same (added.extend e) e := by
  cases added <;> cases g <;> simp_all [Same, Scope.extend, Scope.field]

end Field

/-! ## Commands that may leak into a field -/

/-- Whether an action changes a field directly. -/
def CheckAction.edits (f : Field) : CheckAction → Bool
  | addName _ _ => f = .names
  | addType _ _ => f = .types
  | addDictionary _ => f = .dictionaries
  | putEnvironment _ => true
  | _ => false

/-- No run of the program fails. -/
def CheckProgram.NeverFails (p : CheckProgram) : Prop :=
  ∀ s stack t, (p.run s).outcome ≠ .failed stack t

/-- No run of the program fails. -/
def SolverProgram.NeverFails {level : Level} (p : SolverProgram level) : Prop :=
  ∀ s stack t, (p.run s).outcome ≠ .failed stack t

mutual

/-- Outside of the scopes of a field no command changes the field directly, and no
failure can be caught. -/
def CheckProgram.Confines (f : Field) : CheckProgram → Prop
  | .done => True
  | .step command rest => command.Confines f ∧ rest.Confines f

def CheckCommand.Confines (f : Field) : CheckCommand → Prop
  | .act a => a.edits f = false
  | .wrap (.scope added) body => added.field = f ∨ body.Confines f
  | .wrap .attempt body => body.NeverFails ∧ body.Confines f
  | .wrap (.context _) body | .wrap (.rethrow _) body => body.Confines f
  | .unify _ _ body => body.Confines f

def SolverProgram.Confines (f : Field) : {level : Level} → SolverProgram level → Prop
  | _, .done => True
  | _, .step command rest => command.Confines f ∧ rest.Confines f

def SolverCommand.Confines (f : Field) : {level : Level} → SolverCommand level → Prop
  | _, .act _ => True
  | _, .attempt body => body.NeverFails ∧ body.Confines f
  | _, .check body => body.Confines f

end

theorem CheckAction.perform_same {f : Field} {a : CheckAction} (h : a.edits f = false)
    (s : Session) : f.Same (a.perform s).2.state.environment s.state.environment := by
  cases a with
  -- each of these changes one field, and `f` is another one
  | addName name entry | addType name entry | addDictionary d =>
    cases f <;> simp_all [edits, Field.Same, perform, Session.modifyEnvironment]
  | putEnvironment source => exact absurd h (by simp [edits])
  | _ => exact Field.Same.refl f s.state.environment

/-! ## Scopes that succeed -/

/-- A scope that succeeds puts its field back into the state in which its body ended. -/
theorem CheckCommand.scope_finished {added : Scope} {body : CheckProgram} {s t : Session}
    (h : ((CheckCommand.wrap (.scope added) body).run s).outcome = .finished t) :
    ∃ m, (body.run (s.modifyEnvironment added.extend)).outcome = .finished m ∧
      t = m.modifyEnvironment (added.field.restore s.state.environment) := by
  rw [CheckCommand.run] at h
  have hpasses := (Wrapper.scope added).bracket_passes (by simp)
  obtain ⟨m, hm, rfl⟩ := hpasses.exists_of_finished h
  exact ⟨m, hm, rfl⟩

/-! ## Runs -/

mutual

/-- By the structure of the program: an open command leaves the field alone, and a scope
of the field puts it back whatever its body did. -/
theorem CheckProgram.same_of_confines {f : Field} : (p : CheckProgram) → p.Confines f →
    ∀ {s t : Session}, (p.run s).outcome = .finished t →
      f.Same t.state.environment s.state.environment
  | .done, _, s, t, h => by
    obtain rfl : s = t := Outcome.finished.inj h
    exact Field.Same.refl f s.state.environment
  | .step command rest, hp, s, t, h => by
    rw [CheckProgram.Confines] at hp
    obtain ⟨hcommand, hrest⟩ := hp
    rw [CheckProgram.run] at h
    obtain ⟨m, hm, ht⟩ := Execution.exists_of_andThen_finished h
    exact (CheckProgram.same_of_confines rest hrest ht).trans
      (CheckCommand.same_of_confines command hcommand hm)

theorem CheckCommand.same_of_confines {f : Field} : (c : CheckCommand) → c.Confines f →
    ∀ {s t : Session}, (c.run s).outcome = .finished t →
      f.Same t.state.environment s.state.environment
  | .act a, ha, s, t, h => by
    obtain ⟨-, rfl⟩ := Execution.of_single_ended none h
    exact CheckAction.perform_same ha s
  | .wrap (.scope added) body, hadded, s, t, h => by
    obtain ⟨m, hm, rfl⟩ := CheckCommand.scope_finished h
    by_cases hf : f = added.field
    · -- whatever has got into the field, it is put back here
      rw [hf]
      exact Field.same_restore added.field s.state.environment m.state.environment
    · have hbody := hadded.resolve_left (Ne.symm hf)
      have hafter := Field.same_restore_of_ne hf s.state.environment m.state.environment
      have hinside := CheckProgram.same_of_confines body hbody hm
      have hbefore := Field.same_extend added hf s.state.environment
      exact hafter.trans (hinside.trans hbefore)
  | .wrap .attempt body, hbody, s, t, h => by
    obtain ⟨failure, m, hm, -, rfl⟩ := Bracket.exists_of_around_ended none h
    cases failure with
    | none => exact CheckProgram.same_of_confines body hbody.2 hm
    -- outside of a scope of the field there is nothing to catch
    | some stack => exact absurd hm (hbody.1 s stack m)
  | .wrap (.context frame) body, hbody, s, t, h => by
    have hpasses := (Wrapper.context frame).bracket_passes (by simp)
    obtain ⟨m, hm, rfl⟩ := hpasses.exists_of_finished h
    exact CheckProgram.same_of_confines body hbody hm
  | .wrap (.rethrow changes) body, hbody, s, t, h => by
    have hpasses := (Wrapper.rethrow changes).bracket_passes (by simp)
    obtain ⟨m, hm, rfl⟩ := hpasses.exists_of_finished h
    exact CheckProgram.same_of_confines body hbody hm
  | .unify level b body, hbody, s, t, h => by
    obtain ⟨m, hm, rfl⟩ := (b.bracket_passes level).exists_of_finished h
    -- neither way of starting a solver touches the environment, in or out
    have hinside := SolverProgram.same_of_confines body hbody hm
    cases b <;> exact hinside

theorem SolverProgram.same_of_confines {f : Field} : {level : Level} →
    (p : SolverProgram level) → p.Confines f →
    ∀ {s t : Solving level}, (p.run s).outcome = .finished t →
      f.Same t.session.state.environment s.session.state.environment
  | _, .done, _, s, t, h => by
    obtain rfl : s = t := Outcome.finished.inj h
    exact Field.Same.refl f s.session.state.environment
  | _, .step command rest, hp, s, t, h => by
    rw [SolverProgram.Confines] at hp
    obtain ⟨hcommand, hrest⟩ := hp
    rw [SolverProgram.run] at h
    obtain ⟨m, hm, ht⟩ := Execution.exists_of_andThen_finished h
    exact (SolverProgram.same_of_confines rest hrest ht).trans
      (SolverCommand.same_of_confines command hcommand hm)

theorem SolverCommand.same_of_confines {f : Field} : {level : Level} →
    (c : SolverCommand level) → c.Confines f →
    ∀ {s t : Solving level}, (c.run s).outcome = .finished t →
      f.Same t.session.state.environment s.session.state.environment
  | _, .act a, _, s, t, h => by
    have hsession : t.session = s.session := a.run_session (by rw [← SolverCommand.run, h]; rfl)
    rw [hsession]
    exact Field.Same.refl f s.session.state.environment
  | _, .attempt body, hbody, s, t, h => by
    obtain ⟨failure, m, hm, -, rfl⟩ := Bracket.exists_of_around_ended none h
    cases failure with
    | none => exact SolverProgram.same_of_confines body hbody.2 hm
    | some stack => exact absurd hm (hbody.1 s stack m)
  | level, .check body, hbody, s, t, h => by
    obtain ⟨m, hm, rfl⟩ := (Solving.checkStep_passes level).exists_of_finished h
    have hinside := CheckProgram.same_of_confines body hbody hm
    exact hinside

end

/-- **Scoped edits stay inside, field by field.** A program that confines a field leaves
it as it was whenever it succeeds, whatever becomes of the other two. And a scope that
succeeds takes back its own field and nothing else: the other fields, the counters and
the module are as its body has left them. -/
theorem CheckProgram.confined_field_kept :
    (∀ (f : Field) (p : CheckProgram), p.Confines f →
      ∀ s t : Session, (p.run s).outcome = .finished t →
        f.Same t.state.environment s.state.environment) ∧
    ∀ (added : Scope) (body : CheckProgram) (s t : Session),
      ((CheckCommand.wrap (.scope added) body).run s).outcome = .finished t →
      ∃ m, (body.run (s.modifyEnvironment added.extend)).outcome = .finished m ∧
        added.field.Same t.state.environment s.state.environment ∧
        (∀ g, g ≠ added.field → g.Same t.state.environment m.state.environment) ∧
        t.state.nextUnknown = m.state.nextUnknown ∧
        t.state.nextDictionary = m.state.nextDictionary ∧
        t.state.currentModule = m.state.currentModule := by
  constructor
  · intro f p hp s t h
    exact CheckProgram.same_of_confines p hp h
  · intro added body s t h
    obtain ⟨m, hm, rfl⟩ := CheckCommand.scope_finished h
    have hown := Field.same_restore added.field s.state.environment m.state.environment
    have hothers : ∀ g, g ≠ added.field → g.Same
        (added.field.restore s.state.environment m.state.environment) m.state.environment :=
      fun g hg => Field.same_restore_of_ne hg s.state.environment m.state.environment
    exact ⟨m, hm, hown, hothers, rfl, rfl, rfl⟩

/-- Inside a scope of names a name is declared, a failure that has crossed another such
scope is caught, and the environment is emptied; outside of it a type is declared, and a
solver runs a check program that catches a failure inside a scope of its own. -/
def CheckProgram.leaky : CheckProgram :=
  let main : ModuleName := ⟨["Main"]⟩
  let entry : NameEntry := ⟨.var "a", .declared⟩
  let caught (name : String) : CheckCommand := .wrap .attempt (.ofList [
    .wrap (.scope (.names [(⟨main, name⟩, entry)])) (.ofList [.act (.fail (.single "no" none))])])
  .ofList [
    .wrap (.scope (.names [(⟨main, "x"⟩, entry)])) (.ofList [
      .act (.addName ⟨main, "y"⟩ entry), caught "z", .act (.putEnvironment (.given ∅))]),
    .act (.addType ⟨main, "T"⟩ ⟨.star, .alias⟩),
    .unify .type .lift (.ofList [.check (.ofList [
      .wrap (.scope (.localVariables main [("v", .var "a")])) (.ofList [caught "w"])])])]

theorem CheckProgram.leaky_keeps_names :
    leaky.Confines .names ∧ ¬ leaky.Confines .types ∧
      ∃ t, (leaky.run (.start .primitive ∅)).outcome = .finished t ∧
        t.state.environment.names = Environment.primitive.names ∧
        t.state.environment.types = (∅ : Table TypeEntry).insert ⟨⟨["Main"]⟩, "T"⟩ ⟨.star, .alias⟩ := by
  have hnames : leaky.Confines .names := by
    simp [leaky, ofList, Confines, CheckCommand.Confines, SolverProgram.ofList,
      SolverProgram.Confines, SolverCommand.Confines, CheckAction.edits, Scope.field]
  have htypes : ¬ leaky.Confines .types := by
    simp [leaky, ofList, Confines, CheckCommand.Confines, CheckAction.edits, Scope.field]
  obtain ⟨hkept, -⟩ := confined_field_kept
  refine ⟨hnames, htypes, _, rfl, ?_, rfl⟩
  exact hkept .names leaky hnames (.start .primitive ∅) _ rfl

end TypingSession
