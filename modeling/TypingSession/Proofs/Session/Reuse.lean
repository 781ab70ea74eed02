import TypingSession.Proofs.Session.Minting

/-!
# TypingSession — unknowns that are handed out again

A solver that fails leaves its counter behind with it. If it had handed out
unknowns, and the failure is caught, the next request begins again where that
solver had begun: `CheckProgram.caughtInside_reuses` is such a run.

This is the only way in which an unknown is handed out twice. A trace *forgets* when
a lifted solver that has handed out something, itself or through a solver inside it,
fails and something is handed out afterwards (`Trace.Forgets`), and a run without
standalone solvers hands an unknown out again after a failure exactly when its trace
forgets (`CheckProgram.noReuse_iff_not_forgets`).
-/

namespace TypingSession

namespace Trace

/-- Nothing that was handed out before a failure is handed out after it. -/
def NoReuse (t : Trace) : Prop :=
  ∀ before ev after, t = before ++ ev :: after → ev.stage.isFailure = true →
    ∀ u ∈ minted before, u ∉ minted after

/-- The trace of a lifted solver that has failed. -/
def FailedLift (piece : Trace) : Prop :=
  ∃ (level : Level) (body : SolverProgram level) (s s' : Session) (stack : ErrorStack),
    ((CheckCommand.unify level .lift body).run s).trace = piece ∧
      ((CheckCommand.unify level .lift body).run s).outcome = .failed stack s'

/-- A lifted solver has handed out something and failed, and something is handed out
after that. -/
def Forgets (t : Trace) : Prop :=
  ∃ before piece after, t = before ++ piece ++ after ∧ FailedLift piece ∧
    minted piece ≠ [] ∧ minted after ≠ []

end Trace

/-! ## Lifted solvers that fail -/

namespace Trace

/-- A lifted solver that fails puts the counter back to where it was when it was
entered, and the counter has not been lower in between. -/
theorem FailedLift.shape {piece : Trace} (h : piece.FailedLift) (hlift : piece.LiftOnly) :
    ∃ opening inside closing, piece = opening :: (inside ++ [closing]) ∧
      opening.minted? = none ∧ opening.isLiftFailure = false ∧
      closing.isLiftFailure = true ∧ closing.moment.counter = opening.moment.counter ∧
      ∀ ev ∈ piece, opening.moment.counter ≤ ev.moment.counter := by
  obtain ⟨level, body, s, s', stack, rfl, houtcome⟩ := h
  rw [CheckCommand.run] at hlift houtcome ⊢
  have hrises := Execution.rises_law.checkCommand (.unify level .lift body) s
  rw [CheckCommand.run] at hrises
  have hfloor := hrises.floor hlift
  rcases (Bridge.lift.bracket level).around_cases body.run s with ⟨-, heq⟩ | ⟨failure, m, hm, heq⟩
  · rw [heq] at houtcome
    exact absurd houtcome (by simp)
  · have hbody := Execution.rises_law.solverProgram body ((Bridge.lift.bracket level).enter s)
    have hlent : m.session.state.nextUnknown = s.state.nextUnknown :=
      Option.some.inj (hbody.lent_eq m (by rw [hm, Outcome.final?_ended]))
    rw [heq] at houtcome hfloor ⊢
    cases failure with
    | none => exact absurd houtcome (by simp [Bridge.bracket, failure?, Outcome.ended])
    | some stack' => exact ⟨_, _, _, rfl, rfl, rfl, rfl, hlent, hfloor⟩

theorem LiftOnly.piece {before piece after : Trace}
    (h : Trace.LiftOnly (before ++ piece ++ after)) : piece.LiftOnly :=
  (liftOnly_append.mp (liftOnly_append.mp h).1).2

/-- Every failed lifted solver that a trace tells of has its whole trace in it. -/
def Accounted (t : Trace) : Prop :=
  ∀ before ev after, t = before ++ ev :: after → ev.isLiftFailure = true →
    ∃ pre piece, before ++ [ev] = pre ++ piece ∧ FailedLift piece

theorem accounted_nil : Accounted [] := by
  intro before ev after heq
  exact absurd heq.symm (List.append_ne_nil_of_right_ne_nil _ (List.cons_ne_nil _ _))

theorem Accounted.append {t t' : Trace} (h : t.Accounted) (h' : t'.Accounted) :
    Accounted (t ++ t') := by
  intro before ev after heq hlift
  rcases List.append_eq_append_iff.mp heq with ⟨between, rfl, hrest⟩ | ⟨between, hrest, hafter⟩
  · -- the failure is in the second trace
    obtain ⟨pre, piece, hpiece, hfailed⟩ := h' between ev after hrest hlift
    exact ⟨t ++ pre, piece, by rw [List.append_assoc, hpiece, List.append_assoc], hfailed⟩
  · -- the second trace begins at the failure or behind it
    cases between with
    | nil =>
      rw [List.append_nil] at hrest
      obtain ⟨pre, piece, hpiece, hfailed⟩ := h' [] ev after hafter.symm hlift
      exact ⟨before ++ pre, piece, by rw [List.append_assoc, ← hpiece]; rfl, hfailed⟩
    | cons ev' between =>
      obtain ⟨rfl, -⟩ := List.cons.inj hafter
      exact h before ev between hrest hlift

/-- An event that is no failure of a lifted solver, or that ends the trace of one. -/
theorem Accounted.concat {t : Trace} {ev : Event} (h : t.Accounted)
    (hev : ev.isLiftFailure = true → FailedLift (t ++ [ev])) : Accounted (t ++ [ev]) := by
  intro before ev' after heq hlift
  rcases List.eq_nil_or_concat after with rfl | ⟨middle, last, rfl⟩
  · -- the failure is the event that was added
    obtain ⟨rfl, hlast⟩ := List.append_inj' heq rfl
    obtain rfl := List.singleton_inj.mp hlast
    exact ⟨[], t ++ [ev], rfl, hev hlift⟩
  · rw [List.concat_eq_append, ← List.cons_append, ← List.append_assoc] at heq
    exact h before ev' middle (List.append_inj' heq rfl).1 hlift

theorem accounted_singleton {ev : Event} (h : ev.isLiftFailure = false) : Accounted [ev] := by
  rw [← List.nil_append [ev]]
  refine accounted_nil.concat fun hlift => ?_
  rw [h] at hlift
  exact absurd hlift (by simp)

end Trace

namespace Execution

variable {σ τ : Type} [Observable σ] [Observable τ]

theorem accounted_single {subject : Subject} (hsubject : subject.isLift = false)
    (result : Except ErrorStack Reply) (s : σ) :
    (single subject result s).trace.Accounted := by
  rw [single_eq]
  refine Trace.accounted_singleton ?_
  unfold Event.isLiftFailure
  rw [hsubject]
  rfl

omit [Observable σ] in
theorem accounted_andThen {e : Execution σ} {next : σ → Execution σ}
    (first : e.trace.Accounted)
    (second : ∀ t, e.outcome = .finished t → (next t).trace.Accounted) :
    (e.andThen next).trace.Accounted := by
  rcases e.andThen_cases next with ⟨-, heq⟩ | ⟨m, hm, heq⟩
  · rw [heq]
    exact first
  · rw [heq]
    exact first.append (second m hm)

theorem accounted_around (b : Bracket σ τ) {body : τ → Execution τ} {s : σ}
    (inside : (body (b.enter s)).trace.Accounted)
    (hclosing : b.subject.isLift = true →
      ∀ stack s', (b.around body s).outcome = .failed stack s' →
        Trace.FailedLift (b.around body s).trace) :
    (b.around body s).trace.Accounted := by
  have hopening : (b.opening s).isLiftFailure = false := Bool.and_false _
  have hopened := (Trace.accounted_singleton hopening).append inside
  rcases b.around_cases body s with ⟨-, heq⟩ | ⟨failure, m, -, heq⟩
  · rw [heq]
    exact hopened
  · rw [heq] at hclosing ⊢
    refine Trace.Accounted.concat hopened fun hlift => ?_
    obtain ⟨hsubject, hfailed⟩ := Bool.and_eq_true_iff.mp hlift
    -- a closing event that tells of a failure ends a bracket that has failed
    cases hresult : (b.leave s failure m).1 with
    | ok reply =>
      simp only [Bracket.closing, hresult, Stage.telling, Stage.isFailure] at hfailed
      exact absurd hfailed (by simp)
    | error stack =>
      rw [hresult] at hclosing
      exact hclosing hsubject stack _ rfl

/-- The law that every failure of a lifted solver ends the trace of that solver. -/
theorem accounted_law :
    RunLaw (fun _ e => e.trace.Accounted) (fun _ _ e => e.trace.Accounted) where
  idle _ := Trace.accounted_nil
  andThen := accounted_andThen
  action _ _ := accounted_single rfl _ _
  wrapper w _ _ inside := accounted_around w.bracket (inside _) fun hlift => absurd hlift (by
    simp [Wrapper.bracket, Subject.isLift])
  bridge {level} b body s inside := by
    refine accounted_around _ (inside _) fun hlift stack s' houtcome => ?_
    cases b with
    | lift => exact ⟨level, body, s, s', stack, by rw [CheckCommand.run], by
        rw [CheckCommand.run]; exact houtcome⟩
    | standalone first => exact absurd hlift (by simp [Bridge.bracket, Subject.isLift])
  solverIdle _ := Trace.accounted_nil
  solverAndThen := accounted_andThen
  solverAction a s := by
    rcases a.run_cases s with ⟨heq, -⟩ | ⟨-, reply, -, heq⟩ | ⟨result, t, heq, -⟩
    · rw [heq]
      exact Trace.accounted_nil
    · rw [heq]
      exact accounted_single rfl _ _
    · rw [heq]
      exact accounted_single rfl _ _
  attempt {level} _ _ inside := accounted_around (Solving.attempt level) (inside _)
    fun hlift => absurd hlift (by simp [Solving.attempt, Subject.isLift])
  checkStep {level} _ _ inside := accounted_around (Solving.checkStep level) (inside _)
    fun hlift => absurd hlift (by simp [Solving.checkStep, Subject.isLift])

end Execution

/-! ## Forgetting -/

namespace Trace

/-- When a trace forgets, the first unknown that is handed out afterwards had been
handed out before. -/
theorem Paced.exists_reused {before piece after : Trace}
    (h : Paced 0 (before ++ piece ++ after)) (hlift : piece.LiftOnly)
    (hpiece : piece.FailedLift) (hminted : minted piece ≠ []) (hafter : minted after ≠ []) :
    ∃ u ∈ minted (before ++ piece), u ∈ minted after := by
  obtain ⟨opening, inside, closing, rfl, hopening, hcalm, -, hback, hfloor⟩ :=
    hpiece.shape hlift
  obtain ⟨hpaced, hpacedAfter⟩ := paced_append.mp h
  obtain ⟨-, hpacedPiece⟩ := paced_append.mp hpaced
  obtain ⟨u, hu⟩ := List.exists_mem_of_ne_nil _ hminted
  obtain ⟨w, ws, hw⟩ := List.exists_cons_of_ne_nil hafter
  -- the solver was entered at the counter that the trace had reached
  have hentered : opening.moment.counter = counterFrom 0 before := by
    rcases hpacedPiece.1.cases with ⟨hsome, -⟩ | ⟨-, heq | ⟨hfailed, -⟩⟩
    · rw [hopening] at hsome
      exact absurd hsome (by simp)
    · exact heq
    · rw [hcalm] at hfailed
      exact absurd hfailed (by simp)
  have hu_ge : opening.moment.counter ≤ u :=
    hpacedPiece.le_minted (Nat.le_of_eq hentered) hfloor u hu
  -- and its failure has put the counter back there
  have hw_le : w ≤ opening.moment.counter := by
    have hfirst := hpacedAfter.first_le hw
    rw [← List.cons_append, ← List.append_assoc, counterFrom_append] at hfirst
    exact Nat.le_trans hfirst (Nat.le_of_eq hback)
  have hu_mem : u ∈ minted (before ++ opening :: (inside ++ [closing])) := by
    rw [minted_append]
    exact List.mem_append_right _ hu
  refine ⟨w, ?_, ?_⟩
  · exact hpaced.mem_minted_of_le hu_mem (Nat.zero_le w) (Nat.le_trans hw_le hu_ge)
  · rw [hw]
    exact List.mem_cons_self

/-- The counter falls back at the failure of a lifted solver only if that solver has
handed out something. -/
theorem FailedLift.not_below {piece : Trace} {n : Nat} (hpiece : piece.FailedLift)
    (h : piece.Paced n) (hlift : piece.LiftOnly) (hnone : minted piece = []) :
    ∃ inner closing, piece = inner ++ [closing] ∧
      counterFrom n inner ≤ closing.moment.counter := by
  obtain ⟨opening, inside, closing, rfl, hopening, -, -, hback, -⟩ := hpiece.shape hlift
  refine ⟨opening :: inside, closing, rfl, ?_⟩
  rw [hback]
  rw [minted_cons_none hopening, minted_append, List.append_eq_nil_iff] at hnone
  exact (paced_append.mp h.2).1.counterFrom_le hnone.1

theorem Paced.minted_eq_of_not_forgets {t : Trace} {n : Nat} (h : t.Paced n)
    (hlift : t.LiftOnly) (haccounted : t.Accounted) (hforgets : ¬ t.Forgets) :
    t.minted = List.range' n t.minted.length := by
  refine h.minted_eq fun before ev after heq hfailed hfall => ?_
  obtain ⟨pre, piece, hsplit, hpiece⟩ := haccounted before ev after heq hfailed
  have heq' : t = pre ++ piece ++ after := by rw [heq, List.append_cons, hsplit]
  rw [heq'] at h hlift
  have hliftPiece := hlift.piece
  have hpacedPiece := (paced_append.mp (paced_append.mp h).1).2
  by_cases hnone : minted piece = []
  · -- then the counter has not fallen back
    obtain ⟨inner, closing, rfl, hle⟩ := hpiece.not_below hpacedPiece hliftPiece hnone
    rw [← List.append_assoc] at hsplit
    obtain ⟨rfl, hlast⟩ := List.append_inj' hsplit rfl
    obtain rfl := List.singleton_inj.mp hlast
    rw [counterFrom_append] at hfall
    exact absurd hfall (Nat.not_lt_of_le hle)
  · by_cases hafter : minted after = []
    · exact hafter
    · exact absurd ⟨pre, piece, after, heq', hpiece, hnone, hafter⟩ hforgets

theorem noReuse_of_nodup {t : Trace} (h : t.minted.Nodup) : t.NoReuse := by
  rintro before ev after rfl - u hbefore hafter
  rw [minted_append, List.nodup_append] at h
  have hlater : u ∈ minted (ev :: after) := by
    rw [← List.singleton_append, minted_append]
    exact List.mem_append_right _ hafter
  exact h.2.2 u hbefore u hlater rfl

theorem NoReuse.not_forgets {t : Trace} (h : t.NoReuse) (hpaced : t.Paced 0)
    (hlift : t.LiftOnly) : ¬ t.Forgets := by
  rintro ⟨before, piece, after, rfl, hpiece, hminted, hafter⟩
  have hliftPiece := hlift.piece
  obtain ⟨u, hu, hu'⟩ := hpaced.exists_reused hliftPiece hpiece hminted hafter
  obtain ⟨opening, inside, closing, rfl, -, -, hclosing, -, -⟩ := hpiece.shape hliftPiece
  have hfailed := Event.isFailure_of_isLiftFailure hclosing
  refine h (before ++ opening :: inside) closing after (by simp) hfailed u ?_ hu'
  rw [← List.cons_append, ← List.append_assoc, minted_append,
    minted_cons_none (Event.minted?_of_isFailure hfailed)] at hu
  rw [List.mem_append] at hu
  exact hu.resolve_right List.not_mem_nil

end Trace

/-- **Unknowns that are handed out again.** In a run without standalone solvers, what
was handed out before a failure is handed out again after it exactly when some lifted
solver fails that has handed out something, and something is handed out later; and
only then is any unknown handed out twice. -/
theorem CheckProgram.noReuse_iff_not_forgets (p : CheckProgram) (e : Environment)
    (shelf : Shelf) (hlift : (p.run (.start e shelf)).trace.LiftOnly) :
    let t := (p.run (.start e shelf)).trace
    (t.NoReuse ↔ ¬ t.Forgets) ∧ (t.minted.Nodup ↔ ¬ t.Forgets) := by
  intro t
  -- the counter starts at zero, so every unknown below it has been handed out
  have hpaced : t.Paced 0 :=
    (Execution.steady_law.checkProgram p _ (Session.orderly_start e shelf) hlift).paced
  have haccounted : t.Accounted := Execution.accounted_law.checkProgram p _
  have hnodup : ¬ t.Forgets → t.minted.Nodup := by
    intro hforgets
    rw [hpaced.minted_eq_of_not_forgets hlift haccounted hforgets]
    exact List.nodup_range'
  have hnot : t.NoReuse → ¬ t.Forgets := fun h => h.not_forgets hpaced hlift
  constructor
  · exact ⟨hnot, fun h => Trace.noReuse_of_nodup (hnodup h)⟩
  · exact ⟨fun h => hnot (Trace.noReuse_of_nodup h), hnodup⟩

/-- A solver fails once it has handed out an unknown, and the session catches that
and starts another. -/
def CheckProgram.caughtLift : CheckProgram := .ofList [
  .wrap .attempt (.ofList [
    .unify .type .lift (.ofList [.act .freshUnknown, .act (.fail (.single "no" none))])]),
  .unify .type .lift (.ofList [.act .freshUnknown])]

theorem CheckProgram.caughtLift_forgets :
    let t := (caughtLift.run (.start ∅ ∅)).trace
    t.LiftOnly ∧ t.minted = [0, 0] ∧ t.Forgets ∧ ¬ t.NoReuse := by
  intro t
  have hlift : t.LiftOnly := by
    unfold Trace.LiftOnly
    decide
  have hminted : t.minted = [0, 0] := by decide
  obtain ⟨hreuse, hnodup⟩ := noReuse_iff_not_forgets caughtLift ∅ ∅ hlift
  have hforgets : t.Forgets := by
    have hrepeated : ¬ t.minted.Nodup := by rw [hminted]; decide
    rw [hnodup] at hrepeated
    exact Classical.not_not.mp hrepeated
  exact ⟨hlift, hminted, hforgets, fun h => hreuse.mp h hforgets⟩

/-- A solver inside another fails once it has handed out an unknown, and the outer
one catches that and goes on. -/
def CheckProgram.caughtInside : CheckProgram := .ofList [
  .unify .type .lift (.ofList [
    .act .freshUnknown,
    .attempt (.ofList [
      .check (.ofList [
        .unify .kind .lift (.ofList [.act .freshUnknown, .act (.fail (.single "no" none))])])]),
    .act .freshUnknown])]

/-- The outer solver hands out again what the inner one had handed out. -/
theorem CheckProgram.caughtInside_reuses :
    ¬ ∀ (p : CheckProgram) (e : Environment) (shelf : Shelf),
      (p.run (.start e shelf)).trace.LiftOnly → (p.run (.start e shelf)).trace.NoReuse := by
  intro h
  have hlift : (caughtInside.run (.start ∅ ∅)).trace.LiftOnly := by
    unfold Trace.LiftOnly
    decide
  let t := (caughtInside.run (.start ∅ ∅)).trace
  -- the eighth event tells of the failure of the inner solver
  have hsplit : t = t.take 7 ++ t[7] :: t.drop 8 := by simp [t]
  have hfresh : 1 ∉ Trace.minted (t.drop 8) :=
    h caughtInside ∅ ∅ hlift (t.take 7) t[7] (t.drop 8) hsplit (by decide) 1 (by decide)
  exact absurd (by decide) hfresh

end TypingSession
