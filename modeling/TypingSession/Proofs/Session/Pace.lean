import TypingSession.Proofs.Session.Counter

/-!
# TypingSession — the pace of the counter

From one event of a trace to the next the counter of unknowns moves in one of
three ways (`Event.Moves`): it goes up by one as that unknown is handed out, it
stays, or it falls back as a lifted solver fails. A trace in which every event
moves like that is *paced*.

`Execution.steady_law` proves that every run without standalone solvers is paced,
and that the counter of the state at its end is that of its last event. What is
handed out in a run can then be read off the trace alone; the second half of the
module does so for any paced trace.
-/

namespace TypingSession

open Observable (moment)

/-- Whether an event tells of a failure. -/
def Stage.isFailure : Stage → Bool
  | failed _ => true
  | entered | finished _ => false

/-- Whether a command starts a solver from the counter of its session. -/
def Subject.isLift : Subject → Bool
  | bridge _ .lift => true
  | bridge _ (.standalone _) => false
  | action _ | wrapper _ | solverAction _ _ | solverAttempt _ | checkStep _ => false

/-- Whether an event tells of the failure of a lifted solver. -/
def Event.isLiftFailure (ev : Event) : Bool := ev.subject.isLift && ev.stage.isFailure

/-- How the counter moves at an event, from `n`. -/
def Event.Moves (n : Nat) (ev : Event) : Prop :=
  match ev.minted? with
  | some u => u = n ∧ n < unknownLimit ∧ ev.moment.counter = n + 1
  | none => ev.moment.counter = n ∨ (ev.isLiftFailure = true ∧ ev.moment.counter ≤ n)

theorem Event.moves_of_minted {ev : Event} {n : Nat} (hminted : ev.minted? = some n)
    (hlimit : n < unknownLimit) (hcounter : ev.moment.counter = n + 1) : ev.Moves n := by
  unfold Moves
  rw [hminted]
  exact ⟨rfl, hlimit, hcounter⟩

theorem Event.moves_of_not_minted {ev : Event} {n : Nat} (hminted : ev.minted? = none)
    (hcounter : ev.moment.counter = n ∨ (ev.isLiftFailure = true ∧ ev.moment.counter ≤ n)) :
    ev.Moves n := by
  unfold Moves
  rw [hminted]
  exact hcounter

theorem Event.isFailure_of_isLiftFailure {ev : Event} (h : ev.isLiftFailure = true) :
    ev.stage.isFailure = true := by
  unfold isLiftFailure at h
  exact (Bool.and_eq_true_iff.mp h).2

theorem Event.minted?_of_isFailure {ev : Event} (h : ev.stage.isFailure = true) :
    ev.minted? = none := by
  unfold minted?
  cases hstage : ev.stage with
  | entered => rfl
  | failed stack => rfl
  | finished reply =>
    rw [hstage] at h
    exact absurd h (by simp [Stage.isFailure])

theorem minted?_telling {subject : Subject} {result : Except ErrorStack Reply} {m : Moment}
    (h : ∀ reply, result = .ok reply → reply.minted? = none) :
    (⟨subject, .telling result, m⟩ : Event).minted? = none := by
  cases result with
  | ok reply => exact h reply rfl
  | error stack => rfl

namespace Trace

/-- The counter behind a trace that begins at a counter of `n`. -/
def counterFrom : Nat → Trace → Nat
  | n, [] => n
  | _, ev :: rest => counterFrom ev.moment.counter rest

/-- Every event of a trace that begins at a counter of `n` moves the counter from
where the event before it has left it. -/
def Paced : Nat → Trace → Prop
  | _, [] => True
  | n, ev :: rest => ev.Moves n ∧ Paced ev.moment.counter rest

/-- The last event of a trace, if there is one, tells of no failure. -/
def Calm (t : Trace) : Prop := ∀ ev, t.getLast? = some ev → ev.stage.isFailure = false

theorem counterFrom_append (n : Nat) (t t' : Trace) :
    counterFrom n (t ++ t') = counterFrom (counterFrom n t) t' := by
  induction t generalizing n with
  | nil => rfl
  | cons ev rest ih => exact ih ev.moment.counter

theorem paced_append {n : Nat} {t t' : Trace} :
    Paced n (t ++ t') ↔ Paced n t ∧ Paced (counterFrom n t) t' := by
  induction t generalizing n with
  | nil => simp only [List.nil_append, Paced, true_and, counterFrom]
  | cons ev rest ih => simp only [List.cons_append, Paced, counterFrom, ih, and_assoc]

theorem calm_append {t t' : Trace} (h : t.Calm) (h' : t'.Calm) : Calm (t ++ t') := by
  intro ev hev
  rw [List.getLast?_append, Option.or_eq_some_iff] at hev
  rcases hev with hev | ⟨-, hev⟩
  · exact h' ev hev
  · exact h ev hev

end Trace

/-! ## Every run is paced -/

/-- The counters of a moment are in order: what is lent out is not above what
counts, and the limit has not been passed. -/
structure Moment.Orderly (m : Moment) : Prop where
  lent_le : ∀ n, m.lent = some n → n ≤ m.counter
  counter_le : m.counter ≤ unknownLimit

namespace Execution

variable {σ τ : Type} [Observable σ] [Observable τ]

/-- An execution whose counter can be followed in its trace, from its start to the
state in which it ends. -/
structure Steady (s : σ) (e : Execution σ) : Prop where
  paced : e.trace.Paced (moment s).counter
  orderly : ∀ t, e.outcome.final? = some t → (moment t).Orderly
  counter_eq : ∀ t, e.outcome.final? = some t →
    (moment t).counter = e.trace.counterFrom (moment s).counter
  calm : (∀ stack t, e.outcome ≠ .failed stack t) → e.trace.Calm
  full : e.outcome = .exhausted → e.trace.counterFrom (moment s).counter = unknownLimit

namespace Steady

theorem idle {s : σ} (hs : (moment s).Orderly) : (Execution.idle s).Steady s where
  paced := trivial
  orderly t h := by
    obtain rfl : s = t := Option.some.inj h
    exact hs
  counter_eq t h := by
    obtain rfl : s = t := Option.some.inj h
    rfl
  calm _ ev hev := absurd hev (by simp [Execution.idle])
  full h := absurd h (by simp [Execution.idle])

theorem andThen {s : σ} {e : Execution σ} {next : σ → Execution σ}
    (first : e.trace.LiftOnly → e.Steady s)
    (second : ∀ t, e.outcome = .finished t → (moment t).Orderly → (next t).trace.LiftOnly →
      (next t).Steady t)
    (hlift : (e.andThen next).trace.LiftOnly) : (e.andThen next).Steady s := by
  rcases e.andThen_cases next with ⟨-, heq⟩ | ⟨m, hm, heq⟩
  · rw [heq] at hlift ⊢
    exact first hlift
  · rw [heq] at hlift ⊢
    obtain ⟨hliftFirst, hliftSecond⟩ := Trace.liftOnly_append.mp hlift
    have h1 := first hliftFirst
    have hmid : e.outcome.final? = some m := by rw [hm]; rfl
    have h2 := second m hm (h1.orderly m hmid) hliftSecond
    -- the second execution starts at the counter behind the trace of the first
    have hcounter := h1.counter_eq m hmid
    refine ⟨?_, h2.orderly, ?_, ?_, ?_⟩
    · -- paced
      rw [Trace.paced_append, ← hcounter]
      exact ⟨h1.paced, h2.paced⟩
    · -- the counter at the end
      intro t ht
      rw [Trace.counterFrom_append, ← hcounter]
      exact h2.counter_eq t ht
    · -- the last event is that of the second, or of the first if it has none
      intro hend
      exact Trace.calm_append (h1.calm (by rw [hm]; intro _ _; simp)) (h2.calm hend)
    · intro hend
      rw [Trace.counterFrom_append, ← hcounter]
      exact h2.full hend

theorem single {s t : σ} (subject : Subject) (result : Except ErrorStack Reply)
    (ht : (moment t).Orderly)
    (hmoves : (⟨subject, .telling result, moment t⟩ : Event).Moves (moment s).counter) :
    (Execution.single subject result t).Steady s := by
  rw [single_eq]
  refine ⟨⟨hmoves, trivial⟩, ?_, ?_, ?_, ?_⟩
  · intro t' ht'
    rw [Outcome.final?_ended] at ht'
    rwa [← Option.some.inj ht']
  · intro t' ht'
    rw [Outcome.final?_ended] at ht'
    rw [← Option.some.inj ht']
    rfl
  · intro hend ev hev
    cases result with
    | ok reply =>
      rw [← Option.some.inj hev]
      rfl
    | error stack => exact absurd rfl (hend stack t)
  · intro hend
    exact absurd hend (by cases result <;> simp [failure?, Outcome.ended])

/-- A bracket is in step when its body starts at the counter of the outer state,
and its closing event moves the counter from where the body has left it. -/
theorem around (b : Bracket σ τ) {body : τ → Execution τ} {s : σ}
    (hrises : (body (b.enter s)).Rises (b.enter s))
    (inside : (moment (b.enter s)).Orderly → (body (b.enter s)).trace.LiftOnly →
      (body (b.enter s)).Steady (b.enter s))
    (horderly : (moment (b.enter s)).Orderly)
    (henter : (moment (b.enter s)).counter = (moment s).counter)
    (hleave : ∀ failure t, (moment t).Orderly → (moment s).counter ≤ (moment t).counter →
      (moment (b.leave s failure t).2).Orderly ∧
        (b.closing s failure t).Moves (moment t).counter)
    (hlift : (b.around body s).trace.LiftOnly) : (b.around body s).Steady s := by
  have hopening : (b.opening s).Moves (moment s).counter := Or.inl henter
  rcases b.around_cases body s with ⟨hm, heq⟩ | ⟨failure, m, hm, heq⟩
  · -- the unknowns have run out inside
    rw [heq] at hlift ⊢
    have hbody := inside horderly fun ev hev => hlift ev (List.mem_cons_of_mem _ hev)
    refine ⟨⟨hopening, hbody.paced⟩, fun t ht => absurd ht (by simp),
      fun t ht => absurd ht (by simp), fun _ => ?_, fun _ => hbody.full hm⟩
    refine Trace.calm_append (t := [b.opening s]) ?_ (hbody.calm (by rw [hm]; intro _ _; simp))
    intro ev hev
    rw [← Option.some.inj hev]
    rfl
  · rw [heq] at hlift ⊢
    have hbody := inside horderly fun ev hev =>
      hlift ev (List.mem_cons_of_mem _ (List.mem_append_left _ hev))
    have hmid : (body (b.enter s)).outcome.final? = some m := by rw [hm, Outcome.final?_ended]
    have hcounter := hbody.counter_eq m hmid
    have hle : (moment s).counter ≤ (moment m).counter := henter ▸ hrises.counter_le m hmid
    obtain ⟨hafter, hmoves⟩ := hleave failure m (hbody.orderly m hmid) hle
    have hbehind : Trace.counterFrom (moment s).counter
        (b.opening s :: ((body (b.enter s)).trace ++ [b.closing s failure m])) =
          (moment (b.leave s failure m).2).counter := by
      rw [Trace.counterFrom, Trace.counterFrom_append]
      rfl
    refine ⟨⟨hopening, ?_⟩, ?_, ?_, ?_, ?_⟩
    · -- the body is paced from the opening event, and the closing event from the body
      rw [Trace.paced_append]
      refine ⟨hbody.paced, ?_, trivial⟩
      have hstart : (b.opening s).moment.counter = (moment (b.enter s)).counter := rfl
      rw [hstart, ← hcounter]
      exact hmoves
    · intro t ht
      rw [Outcome.final?_ended] at ht
      rwa [← Option.some.inj ht]
    · intro t ht
      rw [Outcome.final?_ended] at ht
      rw [← Option.some.inj ht, hbehind]
    · intro hend ev hev
      rw [← List.cons_append, List.getLast?_concat] at hev
      rw [← Option.some.inj hev]
      -- a bracket that has not failed closes with an answer
      cases hresult : (b.leave s failure m).1 with
      | ok reply => simp only [Bracket.closing, hresult, Stage.telling, Stage.isFailure]
      | error stack =>
        rw [hresult] at hend
        exact absurd rfl (hend stack _)
    · intro hend
      exact absurd hend (by cases (b.leave s failure m).1 <;> simp [failure?, Outcome.ended])

end Steady

theorem orderly_session {s : Session} (h : s.state.nextUnknown ≤ unknownLimit) :
    (moment s).Orderly :=
  ⟨fun n hn => absurd hn (by simp [moment, Moment.lent]), h⟩

theorem orderly_solving {level : Level} {s : Solving level}
    (hle : s.session.state.nextUnknown ≤ s.solver.nextUnknown)
    (hlimit : s.solver.nextUnknown ≤ unknownLimit) : (moment s).Orderly :=
  ⟨fun _ hn => Option.some.inj hn ▸ hle, hlimit⟩

/-- The law that every run without standalone solvers, from a state in order, is in
step with its trace. -/
theorem steady_law : RunLaw
    (fun s e => (moment s).Orderly → e.trace.LiftOnly → e.Steady s)
    (fun _ s e => (moment s).Orderly → e.trace.LiftOnly → e.Steady s) where
  idle _ hs _ := Steady.idle hs
  andThen first second hs hlift := Steady.andThen (first hs) second hlift
  action a s hs _ := by
    have hsame := a.perform_nextUnknown s
    show (single (.action a) (a.perform s).1 (a.perform s).2).Steady s
    refine Steady.single _ _ (orderly_session ?_) ?_
    · rw [hsame]
      exact hs.counter_le
    · exact Event.moves_of_not_minted (minted?_telling fun _ => CheckAction.perform_minted)
        (Or.inl hsame)
  wrapper w body s inside hs hlift := by
    refine Steady.around _ (rises_law.checkProgram body _) (inside _) ?_ ?_ ?_ hlift
    · cases w <;> exact orderly_session hs.counter_le
    · cases w <;> rfl
    · intro failure t ht _
      cases w <;> cases failure <;> exact ⟨orderly_session ht.counter_le, Or.inl rfl⟩
  bridge {level} b body s inside hs hlift := by
    -- there are no standalone solvers
    obtain rfl : b = .lift := by
      cases b with
      | lift => rfl
      | standalone first =>
        -- the opening event of a standalone solver is in the trace
        exact absurd (hlift _ List.mem_cons_self) (by simp [Bridge.bracket, Subject.isStandalone])
    refine Steady.around _ (rises_law.solverProgram body _) (inside _) ?_ rfl ?_ hlift
    · exact orderly_solving (Nat.le_refl _) hs.counter_le
    · intro failure t ht _
      have hlent : t.session.state.nextUnknown ≤ t.solver.nextUnknown := ht.lent_le _ rfl
      cases failure with
      | none => exact ⟨orderly_session ht.counter_le, Or.inl rfl⟩
      | some stack =>
        -- the one place where the counter may fall back
        exact ⟨orderly_session (Nat.le_trans hlent ht.counter_le), Or.inr ⟨rfl, hlent⟩⟩
  solverIdle _ hs _ := Steady.idle hs
  solverAndThen first second hs hlift := Steady.andThen (first hs) second hlift
  solverAction a s hs _ := by
    have hlent : s.session.state.nextUnknown ≤ s.solver.nextUnknown := hs.lent_le _ rfl
    rcases a.run_cases s with ⟨heq, hfull⟩ | ⟨hlimit, reply, hreply, heq⟩ |
      ⟨result, t, heq, hresult, hsession, hnext⟩
    · rw [heq]
      exact ⟨trivial, fun t ht => absurd ht (by simp [exhausted]),
        fun t ht => absurd ht (by simp [exhausted]),
        fun _ ev hev => absurd hev (by simp [exhausted]), fun _ => Nat.le_antisymm hs.counter_le hfull⟩
    · -- an unknown is handed out
      rw [heq]
      refine Steady.single _ _ (orderly_solving (Nat.le_succ_of_le hlent) hlimit) ?_
      exact Event.moves_of_minted hreply hlimit rfl
    · -- any other action
      rw [heq]
      refine Steady.single _ _ (orderly_solving ?_ ?_) ?_
      · rw [hsession, hnext]
        exact hlent
      · rw [hnext]
        exact hs.counter_le
      · exact Event.moves_of_not_minted (minted?_telling hresult) (Or.inl hnext)
  attempt body s inside hs hlift := by
    refine Steady.around _ (rises_law.solverProgram body _) (inside _) hs rfl ?_ hlift
    intro failure t ht _
    exact ⟨ht, Or.inl rfl⟩
  checkStep {level} body s inside hs hlift := by
    have hlent : s.session.state.nextUnknown ≤ s.solver.nextUnknown := hs.lent_le _ rfl
    have henter : max s.session.state.nextUnknown s.solver.nextUnknown = s.solver.nextUnknown :=
      Nat.max_eq_right hlent
    refine Steady.around _ (rises_law.checkProgram body _) (inside _) ?_ henter ?_ hlift
    · exact orderly_session (Nat.le_trans (Nat.le_of_eq henter) hs.counter_le)
    · intro failure t ht hle
      -- the check program has not fallen behind the solver, so the solver takes its counter
      have hback : max s.solver.nextUnknown t.state.nextUnknown = t.state.nextUnknown :=
        Nat.max_eq_right hle
      refine ⟨orderly_solving (Nat.le_trans hlent (Nat.le_max_left _ _)) ?_, ?_⟩
      · exact Nat.le_trans (Nat.le_of_eq hback) ht.counter_le
      · cases failure <;> exact Or.inl hback

end Execution

/-! ## What a paced trace hands out -/

theorem Event.Moves.cases {ev : Event} {n : Nat} (h : ev.Moves n) :
    (ev.minted? = some n ∧ n < unknownLimit ∧ ev.moment.counter = n + 1) ∨
    (ev.minted? = none ∧
      (ev.moment.counter = n ∨ (ev.isLiftFailure = true ∧ ev.moment.counter ≤ n))) := by
  unfold Moves at h
  split at h
  · next u hu =>
    obtain ⟨rfl, hlimit, hcounter⟩ := h
    exact Or.inl ⟨hu, hlimit, hcounter⟩
  · next hnone => exact Or.inr ⟨hnone, h⟩

theorem Event.Moves.counter_le {ev : Event} {n : Nat} (h : ev.Moves n)
    (hnone : ev.minted? = none) : ev.moment.counter ≤ n := by
  rcases h.cases with ⟨hsome, -, -⟩ | ⟨-, heq | ⟨-, hle⟩⟩
  · rw [hsome] at hnone
    exact absurd hnone (by simp)
  · exact Nat.le_of_eq heq
  · exact hle

namespace Trace

theorem minted_append (t t' : Trace) : minted (t ++ t') = t.minted ++ t'.minted :=
  List.filterMap_append

theorem minted_cons_some {ev : Event} {u : Nat} (h : ev.minted? = some u) (t : Trace) :
    minted (ev :: t) = u :: t.minted :=
  List.filterMap_cons_some h

theorem minted_cons_none {ev : Event} (h : ev.minted? = none) (t : Trace) :
    minted (ev :: t) = t.minted :=
  List.filterMap_cons_none h

/-- When nothing is handed out after the counter has fallen back, what is handed out
is one unknown after the other. -/
theorem Paced.minted_eq {t : Trace} {n : Nat} (h : t.Paced n)
    (hfall : ∀ before ev after, t = before ++ ev :: after → ev.isLiftFailure = true →
      ev.moment.counter < counterFrom n before → minted after = []) :
    t.minted = List.range' n t.minted.length := by
  induction t generalizing n with
  | nil => rfl
  | cons ev rest ih =>
    obtain ⟨hmoves, hrest⟩ := h
    have ihrest := ih hrest fun before ev' after heq hlift hlt =>
      hfall (ev :: before) ev' after (by rw [heq]; rfl) hlift hlt
    rcases hmoves.cases with ⟨hminted, -, hcounter⟩ | ⟨hnone, hcounter⟩
    · rw [hcounter] at ihrest
      rw [minted_cons_some hminted, List.length_cons, List.range'_succ, ← ihrest]
    · rw [minted_cons_none hnone]
      by_cases heq : ev.moment.counter = n
      · rw [heq] at ihrest
        exact ihrest
      · -- the counter has fallen back at the first event, so nothing follows
        obtain ⟨hlift, hle⟩ := hcounter.resolve_left heq
        rw [hfall [] ev rest rfl hlift (Nat.lt_of_le_of_ne hle heq)]
        rfl

/-- Without a failed lifted solver the counter goes up by what is handed out. -/
theorem Paced.counterFrom_eq {t : Trace} {n : Nat} (h : t.Paced n)
    (hlift : ∀ ev ∈ t, ev.isLiftFailure = false) : counterFrom n t = n + t.minted.length := by
  induction t generalizing n with
  | nil => rfl
  | cons ev rest ih =>
    obtain ⟨hmoves, hrest⟩ := h
    have ihrest := ih hrest fun ev' hev' => hlift ev' (List.mem_cons_of_mem _ hev')
    rw [counterFrom, ihrest]
    rcases hmoves.cases with ⟨hminted, -, hcounter⟩ | ⟨hnone, hcounter | ⟨hfailed, -⟩⟩
    · rw [hcounter, minted_cons_some hminted, List.length_cons]
      omega
    · rw [hcounter, minted_cons_none hnone]
    · rw [hlift ev List.mem_cons_self] at hfailed
      exact absurd hfailed (by simp)

theorem Paced.lt_limit {t : Trace} {n : Nat} (h : t.Paced n) :
    ∀ u ∈ t.minted, u < unknownLimit := by
  induction t generalizing n with
  | nil => exact fun u hu => absurd hu List.not_mem_nil
  | cons ev rest ih =>
    obtain ⟨hmoves, hrest⟩ := h
    rcases hmoves.cases with ⟨hminted, hlimit, -⟩ | ⟨hnone, -⟩
    · intro u hu
      rw [minted_cons_some hminted] at hu
      rcases List.mem_cons.mp hu with rfl | hu
      · exact hlimit
      · exact ih hrest u hu
    · rw [minted_cons_none hnone]
      exact ih hrest

/-- What is handed out is not below a floor of the counter. -/
theorem Paced.le_minted {t : Trace} {n floor : Nat} (h : t.Paced n) (hn : floor ≤ n)
    (hfloor : ∀ ev ∈ t, floor ≤ ev.moment.counter) : ∀ u ∈ t.minted, floor ≤ u := by
  induction t generalizing n with
  | nil => exact fun u hu => absurd hu List.not_mem_nil
  | cons ev rest ih =>
    obtain ⟨hmoves, hrest⟩ := h
    have ihrest := ih hrest (hfloor ev List.mem_cons_self)
      fun ev' hev' => hfloor ev' (List.mem_cons_of_mem _ hev')
    rcases hmoves.cases with ⟨hminted, -, -⟩ | ⟨hnone, -⟩
    · intro u hu
      rw [minted_cons_some hminted] at hu
      rcases List.mem_cons.mp hu with rfl | hu
      · exact hn
      · exact ihrest u hu
    · rw [minted_cons_none hnone]
      exact ihrest

/-- Until an unknown is handed out, the counter does not rise. -/
theorem Paced.counterFrom_le {t : Trace} {n : Nat} (h : t.Paced n) (hnone : t.minted = []) :
    counterFrom n t ≤ n := by
  induction t generalizing n with
  | nil => exact Nat.le_refl n
  | cons ev rest ih =>
    obtain ⟨hmoves, hrest⟩ := h
    rcases hmoves.cases with ⟨hminted, -, -⟩ | ⟨hev, -⟩
    · rw [minted_cons_some hminted] at hnone
      exact absurd hnone (by simp)
    · rw [minted_cons_none hev] at hnone
      exact Nat.le_trans (ih hrest hnone) (hmoves.counter_le hev)

/-- The first unknown that is handed out is not above the counter at the start. -/
theorem Paced.first_le {t : Trace} {n u : Nat} {us : List Nat} (h : t.Paced n)
    (hfirst : t.minted = u :: us) : u ≤ n := by
  induction t generalizing n with
  | nil => exact absurd hfirst (by simp [minted])
  | cons ev rest ih =>
    obtain ⟨hmoves, hrest⟩ := h
    rcases hmoves.cases with ⟨hminted, -, -⟩ | ⟨hev, -⟩
    · rw [minted_cons_some hminted] at hfirst
      exact Nat.le_of_eq (List.cons.inj hfirst).1.symm
    · rw [minted_cons_none hev] at hfirst
      exact Nat.le_trans (ih hrest hfirst) (hmoves.counter_le hev)

/-- The counter rises one by one, so on its way up to an unknown it hands out every
unknown from the start on. -/
theorem Paced.mem_minted_of_le {t : Trace} {n u w : Nat} (h : t.Paced n) (hu : u ∈ t.minted)
    (hn : n ≤ w) (hw : w ≤ u) : w ∈ t.minted := by
  induction t generalizing n with
  | nil => exact absurd hu List.not_mem_nil
  | cons ev rest ih =>
    obtain ⟨hmoves, hrest⟩ := h
    rcases hmoves.cases with ⟨hminted, -, hcounter⟩ | ⟨hev, -⟩
    · rw [minted_cons_some hminted] at hu ⊢
      by_cases hwn : w = n
      · exact List.mem_cons.mpr (Or.inl hwn)
      · -- `w` is above the first unknown, so `u` is handed out later
        have hrestu : u ∈ minted rest := by
          rcases List.mem_cons.mp hu with rfl | hu
          · omega
          · exact hu
        exact List.mem_cons_of_mem _ (ih hrest hrestu (by omega))
    · -- the counter has not risen above `w`
      rw [minted_cons_none hev] at hu ⊢
      exact ih hrest hu (Nat.le_trans (hmoves.counter_le hev) hn)

end Trace

end TypingSession
