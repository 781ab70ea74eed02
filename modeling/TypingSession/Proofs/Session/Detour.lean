import TypingSession.Proofs.Session.Counter

/-!
# TypingSession — detours through a solver

A check program can be run directly, or by way of a lifted solver that has it as its
only step (`CheckCommand.detour`). On the detour the counter of unknowns goes from the
session to the solver, is lent to the program, is taken over by the solver again, and is
stored in the session in the end. Where it is lent and where it is taken over, the larger
of two counters wins.

`CheckProgram.run_detour` proves that none of this can be noticed: the program does the
same, event by event, and a success leaves the same session. This needs that no program
lowers the counter (`Execution.rises_law`), as otherwise the solver would go on from a
larger one. Only a failure is different, since it gives up the unknowns of its solver.
-/

namespace TypingSession

/-- A check program by way of a lifted solver that does nothing else. -/
def CheckCommand.detour (level : Level) (c : CheckProgram) : CheckCommand :=
  .unify level .lift (.step (.check c) .done)

/-- A session with the counter of unknowns of an earlier one. -/
def Session.withUnknownsOf (t s : Session) : Session :=
  { t with state.nextUnknown := s.state.nextUnknown }

namespace Detour

variable (level : Level) (s t : Session)

/-- A solver that has been started from the session `s`, once its only step has ended in
the session `t`. -/
def returned : Solving level := ⟨t.withUnknownsOf s, ⟨t.state.nextUnknown, ∅⟩⟩

/-- On the way in the program finds the session as it is in front of the solver. -/
theorem checkStep_enter_lift :
    (Solving.checkStep level).enter ((Bridge.lift.bracket level).enter s) = s := by
  have hcounter : max s.state.nextUnknown s.state.nextUnknown = s.state.nextUnknown :=
    Nat.max_self _
  show { s with state.nextUnknown := max s.state.nextUnknown s.state.nextUnknown } = s
  rw [hcounter]

/-- On the way back the solver takes over the counter of the program, which is the larger. -/
theorem checkStep_leave_lift (failure : Option ErrorStack)
    (hle : s.state.nextUnknown ≤ t.state.nextUnknown) :
    (Solving.checkStep level).leave ((Bridge.lift.bracket level).enter s) failure t =
      (failure.elim (.ok .nothing) .error, returned level s t) := by
  have hcounter : max s.state.nextUnknown t.state.nextUnknown = t.state.nextUnknown :=
    Nat.max_eq_right hle
  have hsolver : ((Solving.checkStep level).leave ((Bridge.lift.bracket level).enter s)
      failure t).2 = returned level s t := by
    show (⟨t.withUnknownsOf s, ⟨max s.state.nextUnknown t.state.nextUnknown, ∅⟩⟩ :
      Solving level) = _
    rw [hcounter]
    rfl
  rw [← hsolver]
  cases failure <;> rfl

/-- The body of the solver is the step, and nothing after it. -/
theorem run_check_done (c : CheckProgram) (solving : Solving level) :
    (SolverProgram.step (.check c) .done).run solving =
      (Solving.checkStep level).around c.run solving := by
  rw [SolverProgram.run_step_done]
  rfl

/-- The events on the way to the program. -/
def there : Trace :=
  [⟨.bridge level .lift, .entered, .solving level (.start s.state.nextUnknown) s.state⟩,
    ⟨.checkStep level, .entered, .checking s.state⟩]

/-- The way back, once the program has ended in the session `t`. -/
theorem run_of_ended {c : CheckProgram} (failure : Option ErrorStack)
    (h : (c.run s).outcome = .ended failure t) {result : Except ErrorStack Reply} {t' : Session}
    (hleave : (Bridge.lift.bracket level).leave s failure (returned level s t) = (result, t')) :
    (CheckCommand.detour level c).run s =
      ⟨there level s ++ (c.run s).trace ++
        [⟨.checkStep level, .telling (failure.elim (.ok .nothing) .error),
          Observable.moment (returned level s t)⟩,
        ⟨.bridge level .lift, .telling result, .checking t'.state⟩],
        .ended (failure? result) t'⟩ := by
  have henter := checkStep_enter_lift level s
  have hrises : s.state.nextUnknown ≤ t.state.nextUnknown :=
    (Execution.rises_law.checkProgram c s).counter_le t (by rw [h, Outcome.final?_ended])
  -- the step in the solver, with the program in it
  have hstep : (SolverProgram.step (.check c) .done).run ((Bridge.lift.bracket level).enter s) =
      ⟨⟨.checkStep level, .entered, .checking s.state⟩ :: ((c.run s).trace ++
        [⟨.checkStep level, .telling (failure.elim (.ok .nothing) .error),
          Observable.moment (returned level s t)⟩]), .ended failure (returned level s t)⟩ := by
    rw [run_check_done, Bracket.around_of_leave failure (by rw [henter, h])
      (checkStep_leave_lift level s t failure hrises)]
    unfold Bracket.opening
    rw [henter]
    cases failure <;> rfl
  -- the solver around it
  have hsolver : (CheckCommand.detour level c).run s = _ :=
    Bracket.around_of_leave failure (by rw [hstep]) hleave
  rw [hsolver, hstep]
  simp only [there, List.append_assoc, List.cons_append, List.nil_append]
  rfl

theorem run_of_exhausted {c : CheckProgram} (h : (c.run s).outcome = .exhausted) :
    (CheckCommand.detour level c).run s = ⟨there level s ++ (c.run s).trace, .exhausted⟩ := by
  have henter := checkStep_enter_lift level s
  have hstep : (SolverProgram.step (.check c) .done).run ((Bridge.lift.bracket level).enter s) =
      ⟨⟨.checkStep level, .entered, .checking s.state⟩ :: (c.run s).trace, .exhausted⟩ := by
    rw [run_check_done, Bracket.around_of_exhausted (by rw [henter, h])]
    unfold Bracket.opening
    rw [henter]
    rfl
  have hsolver : (CheckCommand.detour level c).run s = _ :=
    Bracket.around_of_exhausted (by rw [hstep])
  rw [hsolver, hstep]
  rfl

end Detour

/-- **A detour through a solver changes nothing.** Take any check program, and any session
to run it in. On the detour it does, event by event, what it does when it is run directly,
with the same answers and in the same states; the solver and its one step only open in
front of this and close behind it. If the program finishes, so does the detour, in the same
session, counter and all, and the solver has solved nothing. If the program fails, the
detour fails with the same stack and leaves the same session but for the counter of
unknowns, which is back where it was. If the unknowns run out, they do so on both ways. -/
theorem CheckProgram.run_detour (level : Level) (c : CheckProgram) (s : Session) :
    let direct := c.run s
    let detour := (CheckCommand.detour level c).run s
    let there := Detour.there level s
    let returned (t : Session) := Observable.moment (Detour.returned level s t)
    (∀ t, direct.outcome = .finished t →
      detour = ⟨there ++ direct.trace ++ [
        ⟨.checkStep level, .finished .nothing, returned t⟩,
        ⟨.bridge level .lift, .finished (.solved level ∅), .checking t.state⟩],
        .finished t⟩) ∧
    (∀ stack t, direct.outcome = .failed stack t →
      detour = ⟨there ++ direct.trace ++ [
        ⟨.checkStep level, .failed stack, returned t⟩,
        ⟨.bridge level .lift, .failed stack, .checking (t.withUnknownsOf s).state⟩],
        .failed stack (t.withUnknownsOf s)⟩) ∧
    (direct.outcome = .exhausted → detour = ⟨there ++ direct.trace, .exhausted⟩) := by
  intro direct detour there returned
  refine ⟨?_, ?_, ?_⟩
  · intro t ht
    -- the session has its counter back from the solver
    have hleave : (Bridge.lift.bracket level).leave s none (Detour.returned level s t) =
        (.ok (.solved level ∅), t) := rfl
    exact Detour.run_of_ended level s t none ht hleave
  · intro stack t ht
    -- the counter of the solver is dropped
    have hleave : (Bridge.lift.bracket level).leave s (some stack) (Detour.returned level s t) =
        (.error stack, t.withUnknownsOf s) := rfl
    exact Detour.run_of_ended level s t (some stack) ht hleave
  · intro hexhausted
    exact Detour.run_of_exhausted level s hexhausted

/-- A program with solvers of both kinds, failures caught on both sides of a bridge, and a
last action that may fail. -/
def CheckProgram.busy (last : CheckAction) : CheckProgram :=
  let failing := CheckProgram.ofList [.act (.fail (.single "caught" none))]
  .ofList [
    .act (.setModule ⟨["M"]⟩),
    .wrap (.scope (.dictionaries [])) (.ofList [
      .unify .kind .lift (.ofList [
        .act .fresh,
        .check (.ofList [.unify .type .lift (.ofList [.act .freshUnknown])]),
        .attempt (.ofList [.check failing])])]),
    .unify .type (.standalone 9) (.ofList [.act .fresh]),
    .wrap .attempt failing,
    .act .freshDictionary,
    .act last]

theorem CheckProgram.busy_detour :
    let s (n : Nat) : Session := ⟨⟨∅, n, 1, none⟩, ∅⟩
    let t (unknowns dictionaries : Nat) : Session :=
      ⟨⟨∅, unknowns, dictionaries, some ⟨["M"]⟩⟩, ∅⟩
    let detour (last : CheckAction) (n : Nat) :=
      ((CheckCommand.detour .type (busy last)).run (s n)).outcome
    detour .freshDictionary 3 = .finished (t 5 3) ∧
      detour (.fail (.single "no" none)) 3 = .failed (.single "no" none) (t 3 2) ∧
      detour .freshDictionary unknownLimit = .exhausted := by
  intro s t detour
  have hfinished : ((busy .freshDictionary).run (s 3)).outcome = .finished (t 5 3) := rfl
  -- run directly, the program that fails leaves the counter where its solvers have moved it
  have hfailed : ((busy (.fail (.single "no" none))).run (s 3)).outcome =
      .failed (.single "no" none) (t 5 2) := rfl
  have hexhausted : ((busy .freshDictionary).run (s unknownLimit)).outcome = .exhausted := rfl
  obtain ⟨honFinished, -, -⟩ := run_detour .type (busy .freshDictionary) (s 3)
  obtain ⟨-, honFailed, -⟩ := run_detour .type (busy (.fail (.single "no" none))) (s 3)
  obtain ⟨-, -, honExhausted⟩ := run_detour .type (busy .freshDictionary) (s unknownLimit)
  refine ⟨?_, ?_, ?_⟩
  · exact congrArg Execution.outcome (honFinished _ hfinished)
  · exact congrArg Execution.outcome (honFailed _ _ hfailed)
  · exact congrArg Execution.outcome (honExhausted hexhausted)

end TypingSession
