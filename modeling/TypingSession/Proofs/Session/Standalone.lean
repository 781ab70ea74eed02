import TypingSession.Proofs.Session.Aftermath
import TypingSession.Proofs.Session.Minting

/-!
# TypingSession — standalone solvers

A standalone solver counts from a number of its own, which may be below the counter of
the session, at it or above it. Inside of it check programs work with the larger of the
two counters, and a solver nested in these moves that on; but what comes of it stays in
the solver. Only a lifted solver that succeeds moves the counter of a session.

What a solver hands out itself, or has handed out by lifted solvers in its check
programs, is what its trace tells of outside of other standalone solvers
(`Trace.outside`). As long as no failure of a lifted solver is caught there, this goes
up, from the number that the solver has started from to the one that it ends with.

* `Execution.nests_law` — a run closes the brackets that it opens, and none that are
  open around it.
* `Execution.climbs_law` — what a run hands out outside of standalone solvers goes up
  from its counter.
* `Execution.stays_law` — without a lifted solver that succeeds, a session keeps its
  counter.
* `CheckProgram.only_lift_moves_counter` — all this for the commands of both languages.
-/

namespace TypingSession

open Observable (moment)

/-! ## Outside of standalone solvers -/

/-- Whether a standalone solver is among some open brackets. -/
def standaloneAmong (opened : List Event) : Bool :=
  opened.any fun opening => opening.subject.isStandalone

theorem standaloneAmong_cons (opening : Event) (opened : List Event) :
    standaloneAmong (opening :: opened) =
      (opening.subject.isStandalone || standaloneAmong opened) :=
  List.any_cons

namespace Trace

/-- The events of a trace behind which no standalone solver is open, if `opened` are the
open brackets in front of it. -/
def outside (opened : List Event) : Trace → Trace
  | [] => []
  | ev :: rest =>
    let behind := ev.nest opened
    if standaloneAmong behind then outside behind rest else ev :: outside behind rest

theorem outside_cons_of_among {ev : Event} {opened : List Event}
    (h : standaloneAmong (ev.nest opened) = true) (t : Trace) :
    outside opened (ev :: t) = outside (ev.nest opened) t := by
  simp only [outside, if_pos h]

theorem outside_cons {ev : Event} {opened : List Event}
    (h : standaloneAmong (ev.nest opened) = false) (t : Trace) :
    outside opened (ev :: t) = ev :: outside (ev.nest opened) t := by
  simp only [outside, h, Bool.false_eq_true, if_false]

theorem outside_append (opened : List Event) (t t' : Trace) :
    outside opened (t ++ t') = outside opened t ++ outside (unclosed opened t) t' := by
  induction t generalizing opened with
  | nil => rfl
  | cons ev rest ih =>
    have hrest := ih (ev.nest opened)
    cases h : standaloneAmong (ev.nest opened) with
    | true =>
      rw [List.cons_append, outside_cons_of_among h, outside_cons_of_among h, hrest]
      rfl
    | false =>
      rw [List.cons_append, outside_cons h, outside_cons h, hrest]
      rfl

theorem outside_sublist (opened : List Event) (t : Trace) : (t.outside opened).Sublist t := by
  induction t generalizing opened with
  | nil => exact List.Sublist.refl []
  | cons ev rest ih =>
    have hrest := ih (ev.nest opened)
    cases h : standaloneAmong (ev.nest opened) with
    | true =>
      rw [outside_cons_of_among h]
      exact hrest.cons ev
    | false =>
      rw [outside_cons h]
      exact hrest.cons_cons ev

/-- A trace tells of nothing outside of the standalone solvers that are open around it. -/
def Hidden (t : Trace) : Prop := ∀ opened, standaloneAmong opened = true → t.outside opened = []

theorem hidden_nil : Hidden [] := fun _ _ => rfl

theorem Hidden.append {t t' : Trace} (h : t.Hidden) (hbalanced : t.Balanced) (h' : t'.Hidden) :
    Hidden (t ++ t') := by
  intro opened hopened
  rw [outside_append, h opened hopened, hbalanced, h' opened hopened, List.append_nil]

theorem hidden_singleton {ev : Event} (h : Balanced [ev]) : Hidden [ev] := by
  intro opened hopened
  have hnest : ev.nest opened = opened := h opened
  rw [outside_cons_of_among (by rw [hnest]; exact hopened)]
  rfl

theorem outside_singleton {ev : Event} (h : Balanced [ev]) {opened : List Event}
    (hopened : standaloneAmong opened = false) : outside opened [ev] = [ev] := by
  have hnest : ev.nest opened = opened := h opened
  rw [outside_cons (by rw [hnest]; exact hopened)]
  rfl

section Enclosed

variable {t : Trace} {opening : Event} (hopening : opening.stage = .entered)

include hopening

/-- A standalone solver hides what it opens around. -/
theorem Hidden.outside_open (h : t.Hidden) {opened : List Event}
    (hamong : standaloneAmong (opening :: opened) = true) : outside opened (opening :: t) = [] := by
  have hnest : opening.nest opened = opening :: opened := Event.nest_of_entered hopening opened
  rw [outside_cons_of_among (by rw [hnest]; exact hamong), hnest]
  exact h _ hamong

/-- Any other bracket hides nothing. -/
theorem outside_open {opened : List Event} (hamong : standaloneAmong (opening :: opened) = false) :
    outside opened (opening :: t) = opening :: outside (opening :: opened) t := by
  have hnest : opening.nest opened = opening :: opened := Event.nest_of_entered hopening opened
  rw [outside_cons (by rw [hnest]; exact hamong), hnest]

variable {closing : Event} (hbalanced : t.Balanced) (hclosing : closing.stage ≠ .entered)
  (hsubject : closing.subject.isBracket = true)

include hbalanced hclosing hsubject

theorem nest_enclosed (opened : List Event) :
    closing.nest (unclosed opened (opening :: t)) = opened := by
  have hinside : unclosed opened (opening :: t) = opening :: opened := by
    show unclosed (opening.nest opened) t = opening :: opened
    rw [Event.nest_of_entered hopening, hbalanced]
  rw [hinside, Event.nest_of_not_entered hclosing, hsubject]
  rfl

/-- Behind its closing event a bracket is open no more. -/
theorem outside_enclosed {opened : List Event} (hopened : standaloneAmong opened = false) :
    outside opened (opening :: (t ++ [closing])) = outside opened (opening :: t) ++ [closing] := by
  have hnest := nest_enclosed hopening hbalanced hclosing hsubject opened
  have hlast : outside (unclosed opened (opening :: t)) [closing] = [closing] := by
    rw [outside_cons (by rw [hnest]; exact hopened)]
    rfl
  rw [← List.cons_append, outside_append, hlast]

theorem Hidden.enclosed (h : t.Hidden) : Hidden (opening :: (t ++ [closing])) := by
  intro opened hopened
  have hnest := nest_enclosed hopening hbalanced hclosing hsubject opened
  have hinside : outside opened (opening :: t) = [] :=
    h.outside_open hopening (by rw [standaloneAmong_cons, hopened, Bool.or_true])
  rw [← List.cons_append, outside_append, hinside,
    outside_cons_of_among (by rw [hnest]; exact hopened)]
  rfl

end Enclosed

end Trace

namespace Execution

variable {σ τ : Type} [Observable σ] [Observable τ]

/-- An execution closes the brackets that it opens, and never those around it. -/
structure Nests (e : Execution σ) : Prop where
  balanced : ∀ t, e.outcome.final? = some t → e.trace.Balanced
  hidden : e.trace.Hidden

namespace Nests

omit [Observable σ] in
theorem idle (s : σ) : (Execution.idle s).Nests := ⟨fun _ _ => Trace.balanced_nil, Trace.hidden_nil⟩

omit [Observable σ] in
theorem andThen {e : Execution σ} {next : σ → Execution σ} (first : e.Nests)
    (second : ∀ t, e.outcome = .finished t → (next t).Nests) : (e.andThen next).Nests := by
  rcases e.andThen_cases next with ⟨-, heq⟩ | ⟨m, hm, heq⟩
  · rw [heq]
    exact first
  · have hfirst : e.trace.Balanced := first.balanced m (by rw [hm]; rfl)
    rw [heq]
    constructor
    · intro t ht
      exact hfirst.append ((second m hm).balanced t ht)
    · exact first.hidden.append hfirst (second m hm).hidden

theorem single {subject : Subject} (hsubject : subject.isBracket = false)
    (result : Except ErrorStack Reply) (t : σ) :
    (Execution.single subject result t).Nests := by
  have hbalanced : Trace.Balanced [⟨subject, .telling result, moment t⟩] :=
    Trace.balanced_singleton (Stage.telling_ne_entered result) hsubject
  rw [single_eq]
  exact ⟨fun _ _ => hbalanced, Trace.hidden_singleton hbalanced⟩

theorem around {b : Bracket σ τ} (hsubject : b.subject.isBracket = true)
    {body : τ → Execution τ} {s : σ} (inside : (body (b.enter s)).Nests) :
    (b.around body s).Nests := by
  rcases b.around_cases body s with ⟨-, heq⟩ | ⟨failure, m, hm, heq⟩
  · rw [heq]
    refine ⟨fun t ht => absurd ht (by simp), ?_⟩
    intro opened hopened
    exact inside.hidden.outside_open rfl (by rw [standaloneAmong_cons, hopened, Bool.or_true])
  · have hinside : (body (b.enter s)).trace.Balanced :=
      inside.balanced m (by rw [hm, Outcome.final?_ended])
    have hclosing : (b.closing s failure m).stage ≠ .entered := Stage.telling_ne_entered _
    rw [heq]
    exact ⟨fun _ _ => hinside.enclosed rfl hclosing hsubject,
      inside.hidden.enclosed rfl hinside hclosing hsubject⟩

end Nests

/-- The law of nesting. -/
theorem nests_law : RunLaw (fun _ e => e.Nests) (fun _ _ e => e.Nests) where
  idle := Nests.idle
  andThen := Nests.andThen
  action _ _ := Nests.single rfl _ _
  wrapper _ _ _ inside := Nests.around rfl (inside _)
  bridge _ _ _ inside := Nests.around rfl (inside _)
  solverIdle := Nests.idle
  solverAndThen := Nests.andThen
  solverAction a s := by
    rcases a.run_cases s with ⟨heq, -⟩ | ⟨-, reply, -, heq⟩ | ⟨result, t, heq, -⟩
    · rw [heq]
      exact ⟨fun t ht => absurd ht (by simp [exhausted]), Trace.hidden_nil⟩
    · rw [heq]
      exact Nests.single rfl _ _
    · rw [heq]
      exact Nests.single rfl _ _
  attempt _ _ inside := Nests.around rfl (inside _)
  checkStep _ _ inside := Nests.around rfl (inside _)

end Execution

/-! ## What is handed out goes up -/

theorem Trace.LiftFailuresEscape.sublist {t t' : Trace} (h : t.LiftFailuresEscape)
    (hsub : t'.Sublist t) : t'.LiftFailuresEscape :=
  List.Pairwise.sublist hsub h

/-- If no failure of a lifted solver is caught in a trace that does not end with a failure,
there is none in it. -/
theorem Trace.LiftFailuresEscape.none_of_calm {t : Trace} (h : t.LiftFailuresEscape)
    (hcalm : t.Calm) : ∀ ev ∈ t, ev.isLiftFailure = false := by
  rcases List.eq_nil_or_concat t with rfl | ⟨before, ev, rfl⟩
  · exact fun ev hev => absurd hev List.not_mem_nil
  · rw [List.concat_eq_append] at h hcalm ⊢
    exact h.before_calm rfl (hcalm ev List.getLast?_concat)

/-- What a trace hands out goes up, and starts no lower than at `n`. -/
structure Trace.GoesUp (n : Nat) (t : Trace) : Prop where
  pairwise : t.minted.Pairwise (· < ·)
  le : ∀ u ∈ t.minted, n ≤ u

theorem Trace.goesUp_nil (n : Nat) : GoesUp n [] :=
  ⟨List.Pairwise.nil, fun _ hu => absurd hu List.not_mem_nil⟩

theorem Trace.GoesUp.mono {n n' : Nat} {t t' : Trace} (h : t.GoesUp n) (hle : n' ≤ n)
    (heq : t'.minted = t.minted) : t'.GoesUp n' := by
  constructor
  · rw [heq]
    exact h.pairwise
  · rw [heq]
    exact fun u hu => Nat.le_trans hle (h.le u hu)

/-- One event hands out one unknown at most. -/
theorem Trace.pairwise_minted_singleton (ev : Event) : (minted [ev]).Pairwise (· < ·) := by
  cases hev : ev.minted? with
  | none =>
    rw [minted_cons_none hev]
    exact List.Pairwise.nil
  | some u =>
    rw [minted_cons_some hev]
    exact List.pairwise_singleton _ _

/-- A bracket hands out what its body does. -/
theorem Trace.minted_enclosed {opening closing : Event} (hopening : opening.minted? = none)
    (hclosing : closing.minted? = none) (t : Trace) :
    minted (opening :: (t ++ [closing])) = t.minted := by
  rw [minted_cons_none hopening, minted_append, minted_cons_none hclosing]
  exact List.append_nil _

theorem Trace.GoesUp.append {n m : Nat} {t t' : Trace} (h : t.GoesUp n) (h' : t'.GoesUp m)
    (hle : n ≤ m) (hbelow : ∀ u ∈ t.minted, u < m) : GoesUp n (t ++ t') := by
  constructor
  · rw [minted_append, List.pairwise_append]
    refine ⟨h.pairwise, h'.pairwise, ?_⟩
    intro u hu v hv
    exact Nat.lt_of_lt_of_le (hbelow u hu) (h'.le v hv)
  · rw [minted_append]
    intro u hu
    rcases List.mem_append.mp hu with hu | hu
    · exact h.le u hu
    · exact Nat.le_trans hle (h'.le u hu)

/-- A trace that ends with the result of a command is calm if the command has finished. -/
theorem Trace.calm_of_telling {σ : Type} {t : Trace} {subject : Subject}
    {result : Except ErrorStack Reply} {s s' : σ}
    (h : Outcome.ended (failure? result) s = .finished s') (m : Moment) :
    Trace.Calm (t ++ [⟨subject, .telling result, m⟩]) := by
  intro ev hev
  rw [List.getLast?_concat] at hev
  rw [← Option.some.inj hev]
  cases result with
  | ok reply => rfl
  | error stack => exact absurd h (by simp [failure?, Outcome.ended])

namespace Execution

variable {σ τ : Type} [Observable σ] [Observable τ]

/-- What the trace `own` of an execution hands out goes up, from the counter at its start to
the one at its end, if no failure of a lifted solver is caught there. -/
structure Ascends (s : σ) (outcome : Outcome σ) (own : Trace) : Prop where
  goesUp : own.LiftFailuresEscape → own.GoesUp (moment s).counter
  below : ∀ t, outcome.final? = some t → (∀ ev ∈ own, ev.isLiftFailure = false) →
    ∀ u ∈ own.minted, u < (moment t).counter
  calm : ∀ t, outcome = .finished t → own.Calm

namespace Ascends

theorem nil (s : σ) (outcome : Outcome σ) : Ascends s outcome [] where
  goesUp _ := Trace.goesUp_nil _
  below _ _ _ u hu := absurd hu List.not_mem_nil
  calm _ _ ev hev := absurd hev (by simp)

theorem append {s m : σ} {outcome : Outcome σ} {own own' : Trace}
    (first : Ascends s (.finished m) own) (second : Ascends m outcome own')
    (hle : (moment s).counter ≤ (moment m).counter)
    (hle' : ∀ t, outcome.final? = some t → (moment m).counter ≤ (moment t).counter) :
    Ascends s outcome (own ++ own') := by
  have hmid : (Outcome.finished m).final? = some m := rfl
  refine ⟨?_, ?_, ?_⟩
  · intro hescape
    have hescapeFirst := hescape.sublist (List.sublist_append_left _ _)
    have hescapeSecond := hescape.sublist (List.sublist_append_right _ _)
    -- the first part has finished, so no lifted solver has failed in it
    have hnone := hescapeFirst.none_of_calm (first.calm m rfl)
    have hbelow := first.below m hmid hnone
    exact (first.goesUp hescapeFirst).append (second.goesUp hescapeSecond) hle hbelow
  · intro t ht hnone u hu
    rw [Trace.minted_append] at hu
    rcases List.mem_append.mp hu with hu | hu
    · have hlt := first.below m hmid (fun ev hev => hnone ev (List.mem_append_left _ hev)) u hu
      exact Nat.lt_of_lt_of_le hlt (hle' t ht)
    · exact second.below t ht (fun ev hev => hnone ev (List.mem_append_right _ hev)) u hu
  · intro t ht
    exact Trace.calm_append (first.calm m rfl) (second.calm t ht)

/-- The one event of an action, or of a standalone solver as it is seen from outside. -/
theorem event {s t : σ} {subject : Subject} {result : Except ErrorStack Reply} {m : Moment}
    (hminted : ∀ u ∈ Trace.minted [⟨subject, .telling result, m⟩],
      (moment s).counter ≤ u ∧ u < (moment t).counter) :
    Ascends s (.ended (failure? result) t) [⟨subject, .telling result, m⟩] := by
  refine ⟨?_, ?_, ?_⟩
  · intro _
    exact ⟨Trace.pairwise_minted_singleton _, fun u hu => (hminted u hu).1⟩
  · intro t' ht _ u hu
    rw [Outcome.final?_ended] at ht
    rw [← Option.some.inj ht]
    exact (hminted u hu).2
  · intro t' ht
    exact Trace.calm_of_telling (t := []) ht _

section Enclosed

variable {b : Bracket σ τ} {s : σ} {own : Trace}
  (henter : (moment s).counter ≤ (moment (b.enter s)).counter)

include henter

theorem opened {outcome : Outcome τ} (inside : Ascends (b.enter s) outcome own) :
    Ascends s .exhausted (b.opening s :: own) := by
  have hopening : (b.opening s).minted? = none := rfl
  refine ⟨?_, fun t ht => absurd ht (by simp), fun t ht => absurd ht (by simp)⟩
  intro hescape
  have hgoesUp := inside.goesUp (hescape.sublist (List.sublist_cons_self _ _))
  exact hgoesUp.mono henter (Trace.minted_cons_none hopening _)

/-- A bracket hands out what its body does. Its end is not below that of the body, unless it
is a lifted solver that fails. -/
theorem enclosed {failure : Option ErrorStack} {m : τ}
    (inside : Ascends (b.enter s) (.ended failure m) own)
    (hclosing : (b.closing s failure m).minted? = none)
    (hleave : (b.closing s failure m).isLiftFailure = false →
      (moment m).counter ≤ (moment (b.leave s failure m).2).counter) :
    Ascends s (.ended (failure? (b.leave s failure m).1) (b.leave s failure m).2)
      (b.opening s :: (own ++ [b.closing s failure m])) := by
  have hminted : Trace.minted (b.opening s :: (own ++ [b.closing s failure m])) = own.minted :=
    Trace.minted_enclosed rfl hclosing own
  refine ⟨?_, ?_, ?_⟩
  · intro hescape
    have hsub : own.Sublist (b.opening s :: (own ++ [b.closing s failure m])) :=
      (List.sublist_append_left _ _).cons _
    exact (inside.goesUp (hescape.sublist hsub)).mono henter hminted
  · intro t ht hnone u hu
    rw [Outcome.final?_ended] at ht
    rw [← Option.some.inj ht]
    rw [hminted] at hu
    have hbelow := inside.below m (Outcome.final?_ended _ _)
      (fun ev hev => hnone ev (List.mem_cons_of_mem _ (List.mem_append_left _ hev))) u hu
    -- the closing event is no failure of a lifted solver, so the counter is kept
    have hback := hleave (hnone _
      (List.mem_cons_of_mem _ (List.mem_append_right _ (List.mem_singleton.mpr rfl))))
    exact Nat.lt_of_lt_of_le hbelow hback
  · intro t ht
    exact Trace.calm_of_telling (t := b.opening s :: own) ht _

end Enclosed

end Ascends

/-- What an execution hands out outside of standalone solvers ascends, wherever it takes
place but in one of those. -/
structure Climbs (s : σ) (e : Execution σ) : Prop where
  rises : e.Rises s
  nests : e.Nests
  ascends : ∀ opened, standaloneAmong opened = false →
    Ascends s e.outcome (e.trace.outside opened)

namespace Climbs

theorem idle (s : σ) : (Execution.idle s).Climbs s where
  rises := Rises.idle s
  nests := Nests.idle s
  ascends _ _ := Ascends.nil _ _

theorem andThen {s : σ} {e : Execution σ} {next : σ → Execution σ} (first : e.Climbs s)
    (second : ∀ t, e.outcome = .finished t → (next t).Climbs t) : (e.andThen next).Climbs s := by
  refine ⟨Rises.andThen first.rises fun t ht => (second t ht).rises,
    Nests.andThen first.nests fun t ht => (second t ht).nests, ?_⟩
  intro opened hopened
  rcases e.andThen_cases next with ⟨-, heq⟩ | ⟨m, hm, heq⟩
  · rw [heq]
    exact first.ascends opened hopened
  · have hmid : e.outcome.final? = some m := by rw [hm]; rfl
    have hfirst := first.ascends opened hopened
    have hsecond := (second m hm).ascends opened hopened
    rw [hm] at hfirst
    -- the first part has closed its brackets, so the second takes place where it began
    have houtside : Trace.outside opened (e.trace ++ (next m).trace) =
        e.trace.outside opened ++ (next m).trace.outside opened := by
      rw [Trace.outside_append, first.nests.balanced m hmid]
    rw [heq, houtside]
    exact hfirst.append hsecond (first.rises.counter_le m hmid) (second m hm).rises.counter_le

theorem single {s t : σ} {subject : Subject} {result : Except ErrorStack Reply}
    (hsubject : subject.isBracket = false) (hrises : (Execution.single subject result t).Rises s)
    (hminted : ∀ u ∈ Trace.minted [⟨subject, .telling result, moment t⟩],
      (moment s).counter ≤ u ∧ u < (moment t).counter) :
    (Execution.single subject result t).Climbs s := by
  refine ⟨hrises, Nests.single hsubject result t, ?_⟩
  intro opened hopened
  have hbalanced : Trace.Balanced [⟨subject, .telling result, moment t⟩] :=
    Trace.balanced_singleton (Stage.telling_ne_entered result) hsubject
  rw [single_eq, Trace.outside_singleton hbalanced hopened]
  exact Ascends.event hminted

section Around

variable {b : Bracket σ τ} {body : τ → Execution τ} {s : σ}
  (hsubject : b.subject.isBracket = true) (hrises : (b.around body s).Rises s)
  (hnests : (b.around body s).Nests)

include hsubject hrises hnests

/-- A bracket other than a standalone solver. -/
theorem around (inside : ∀ t, (body t).Climbs t) (hshared : b.subject.isStandalone = false)
    (henter : (moment s).counter ≤ (moment (b.enter s)).counter)
    (hleave : ∀ failure t, (b.closing s failure t).minted? = none ∧
      ((b.closing s failure t).isLiftFailure = false →
        (moment t).counter ≤ (moment (b.leave s failure t).2).counter)) :
    (b.around body s).Climbs s := by
  have hbody := inside (b.enter s)
  refine ⟨hrises, hnests, ?_⟩
  intro opened hopened
  have hamong : standaloneAmong (b.opening s :: opened) = false := by
    rw [standaloneAmong_cons, hopened, Bool.or_false]
    exact hshared
  have hinside := hbody.ascends _ hamong
  have hopen : Trace.outside opened (b.opening s :: (body (b.enter s)).trace) =
      b.opening s :: (body (b.enter s)).trace.outside (b.opening s :: opened) :=
    Trace.outside_open rfl hamong
  rcases b.around_cases body s with ⟨-, heq⟩ | ⟨failure, m, hm, heq⟩
  · rw [heq, hopen]
    exact hinside.opened henter
  · have hbalanced := hbody.nests.balanced m (by rw [hm, Outcome.final?_ended])
    obtain ⟨hclosing, hback⟩ := hleave failure m
    rw [hm] at hinside
    rw [heq, Trace.outside_enclosed rfl hbalanced (Stage.telling_ne_entered _) hsubject hopened,
      hopen]
    exact hinside.enclosed henter hclosing hback

/-- A standalone solver has nothing to show outside of itself but its end. -/
theorem standalone (hbody : (body (b.enter s)).Nests) (hapart : b.subject.isStandalone = true)
    (hclosing : ∀ failure t, (b.closing s failure t).minted? = none) :
    (b.around body s).Climbs s := by
  refine ⟨hrises, hnests, ?_⟩
  intro opened hopened
  have hopen : Trace.outside opened (b.opening s :: (body (b.enter s)).trace) = [] := by
    have hsolver : (b.opening s).subject.isStandalone = true := hapart
    exact hbody.hidden.outside_open rfl (by rw [standaloneAmong_cons, hsolver, Bool.true_or])
  rcases b.around_cases body s with ⟨-, heq⟩ | ⟨failure, m, hm, heq⟩
  · rw [heq, hopen]
    exact Ascends.nil _ _
  · have hbalanced := hbody.balanced m (by rw [hm, Outcome.final?_ended])
    have hminted : Trace.minted [b.closing s failure m] = [] :=
      Trace.minted_cons_none (hclosing failure m) []
    rw [heq, Trace.outside_enclosed rfl hbalanced (Stage.telling_ne_entered _) hsubject hopened,
      hopen]
    refine Ascends.event ?_
    intro u hu
    exact absurd (hminted ▸ hu) List.not_mem_nil

end Around

end Climbs

/-- The law of what goes up. -/
theorem climbs_law : RunLaw (fun s e => e.Climbs s) (fun _ s e => e.Climbs s) where
  idle := Climbs.idle
  andThen := Climbs.andThen
  action a s := by
    have hnone : (⟨.action a, .telling (a.perform s).1, moment (a.perform s).2⟩ :
        Event).minted? = none := minted?_telling fun _ => CheckAction.perform_minted
    show (single (.action a) (a.perform s).1 (a.perform s).2).Climbs s
    refine Climbs.single rfl (rises_law.action a s) ?_
    rw [Trace.minted_cons_none hnone]
    exact fun u hu => absurd hu List.not_mem_nil
  wrapper w body s inside := by
    have hrises := rises_law.wrapper w body s fun t => (inside t).rises
    have hnests := nests_law.wrapper w body s fun t => (inside t).nests
    refine Climbs.around rfl hrises hnests inside rfl ?_ ?_
    · cases w <;> exact Nat.le_refl _
    · intro failure t
      constructor
      · cases w <;> cases failure <;> rfl
      · intro _
        cases w <;> cases failure <;> exact Nat.le_refl _
  bridge {level} b body s inside := by
    have hrises := rises_law.bridge b body s fun t => (inside t).rises
    have hnests := nests_law.bridge b body s fun t => (inside t).nests
    cases b with
    | lift =>
      refine Climbs.around rfl hrises hnests inside rfl (Nat.le_refl _) ?_
      intro failure t
      constructor
      · cases failure <;> rfl
      · intro hnotLift
        cases failure with
        | none => exact Nat.le_refl _
        | some stack =>
          -- a lifted solver that fails is what is excluded
          have hlift : ((Bridge.lift.bracket level).closing s (some stack) t).isLiftFailure = true :=
            rfl
          rw [hlift] at hnotLift
          exact absurd hnotLift (by simp)
    | standalone first =>
      refine Climbs.standalone rfl hrises hnests (inside _).nests rfl ?_
      intro failure t
      cases failure <;> rfl
  solverIdle := Climbs.idle
  solverAndThen := Climbs.andThen
  solverAction {level} a s := by
    have hrises := rises_law.solverAction a s
    have hnests := nests_law.solverAction a s
    rcases a.run_cases s with ⟨heq, -⟩ | ⟨-, reply, hreply, heq⟩ | ⟨result, t, heq, hresult, -⟩
    · rw [heq] at hrises hnests ⊢
      exact ⟨hrises, hnests, fun _ _ => Ascends.nil _ _⟩
    · -- the counter itself is handed out, and moves on
      rw [heq] at hrises ⊢
      have hminted : ∀ m : Moment, (⟨.solverAction level a, .telling (.ok reply), m⟩ :
          Event).minted? = some s.solver.nextUnknown := fun _ => hreply
      refine Climbs.single rfl hrises ?_
      rw [Trace.minted_cons_some (hminted _)]
      intro u hu
      rw [List.mem_singleton.mp hu]
      exact ⟨Nat.le_refl _, Nat.lt_succ_self _⟩
    · rw [heq] at hrises ⊢
      refine Climbs.single rfl hrises ?_
      rw [Trace.minted_cons_none (minted?_telling hresult)]
      exact fun u hu => absurd hu List.not_mem_nil
  attempt {level} body s inside := by
    have hrises := rises_law.attempt body s fun t => (inside t).rises
    have hnests := nests_law.attempt body s fun t => (inside t).nests
    exact Climbs.around rfl hrises hnests inside rfl (Nat.le_refl _)
      fun failure t => ⟨rfl, fun _ => Nat.le_refl _⟩
  checkStep {level} body s inside := by
    have hrises := rises_law.checkStep body s fun t => (inside t).rises
    have hnests := nests_law.checkStep body s fun t => (inside t).nests
    refine Climbs.around rfl hrises hnests inside rfl (Nat.le_max_right _ _) ?_
    intro failure t
    constructor
    · cases failure <;> rfl
    · exact fun _ => Nat.le_max_right _ _

end Execution

/-! ## What moves the counter of a session -/

/-- Whether an event tells of the success of a lifted solver. -/
def Event.isLiftSuccess (ev : Event) : Bool :=
  match ev.stage with
  | .finished _ => ev.subject.isLift
  | .entered | .failed _ => false

namespace Execution

/-- A session has the same counter behind an execution, unless this tells of a lifted solver
that has succeeded. -/
def Stays (s : Session) (e : Execution Session) : Prop :=
  (∀ ev ∈ e.trace, ev.isLiftSuccess = false) →
    ∀ t, e.outcome.final? = some t → t.state.nextUnknown = s.state.nextUnknown

/-- The law of the counter of a session. Inside of a solver, that it is lent out is enough. -/
theorem stays_law : RunLaw (fun s e => e.Stays s) (fun _ s e => e.Rises s) where
  idle s := by
    intro _ t ht
    obtain rfl : s = t := Option.some.inj ht
    rfl
  andThen {s e next} first second := by
    intro hnone t ht
    rcases e.andThen_cases next with ⟨-, heq⟩ | ⟨m, hm, heq⟩
    · rw [heq] at hnone ht
      exact first hnone t ht
    · rw [heq] at hnone ht
      have hfirst := first (fun ev hev => hnone ev (List.mem_append_left _ hev)) m (by rw [hm]; rfl)
      have hsecond := second m hm (fun ev hev => hnone ev (List.mem_append_right _ hev)) t ht
      exact hsecond.trans hfirst
  action a s := by
    intro _ t ht
    have hrun : a.run s = single (.action a) (a.perform s).1 (a.perform s).2 := rfl
    rw [hrun, single_eq, Outcome.final?_ended] at ht
    rw [← Option.some.inj ht]
    exact a.perform_nextUnknown s
  wrapper w body s inside := by
    intro hnone t ht
    rcases w.bracket.around_cases body.run s with ⟨-, heq⟩ | ⟨failure, m, hm, heq⟩
    · rw [heq] at ht
      exact absurd ht (by simp)
    · rw [heq] at hnone ht
      rw [Outcome.final?_ended] at ht
      have hinside := inside _ (fun ev hev => hnone ev
        (List.mem_cons_of_mem _ (List.mem_append_left _ hev))) m (by rw [hm, Outcome.final?_ended])
      rw [← Option.some.inj ht]
      cases w <;> cases failure <;> exact hinside
  bridge {level} b body s inside := by
    intro hnone t ht
    rcases (b.bracket level).around_cases body.run s with ⟨-, heq⟩ | ⟨failure, m, hm, heq⟩
    · rw [heq] at ht
      exact absurd ht (by simp)
    · rw [heq] at hnone ht
      rw [Outcome.final?_ended] at ht
      have hback := b.counter_of_lent ((inside _).lent_eq m (by rw [hm, Outcome.final?_ended]))
      have hclosing := hnone ((b.bracket level).closing s failure m)
        (List.mem_cons_of_mem _ (List.mem_append_right _ (List.mem_singleton.mpr rfl)))
      rw [← Option.some.inj ht]
      cases b with
      | standalone first => cases failure <;> exact hback
      | lift =>
        -- a success would have been told by the closing event
        cases failure with
        | some stack => exact hback
        | none => exact absurd hclosing (by simp [Bracket.closing, Bridge.bracket,
            Stage.telling, Event.isLiftSuccess, Subject.isLift])
  solverIdle := Rises.idle
  solverAndThen := Rises.andThen
  solverAction := rises_law.solverAction
  attempt := rises_law.attempt
  checkStep body s _ := rises_law.checkStep body s (rises_law.checkProgram body)

end Execution

section Solver

variable {level : Level} (first : Nat) (body : SolverProgram level) (s : Session)

/-- However a standalone solver ends, its session has the counter that it had. -/
theorem CheckCommand.standalone_counter {t : Session}
    (h : ((CheckCommand.unify level (.standalone first) body).run s).outcome.final? = some t) :
    t.state.nextUnknown = s.state.nextUnknown := by
  have hinside := Execution.rises_law.solverProgram body ⟨s, .start first⟩
  rcases ((Bridge.standalone first).bracket level).around_cases body.run s with
    ⟨-, heq⟩ | ⟨failure, m, hm, heq⟩
  · rw [CheckCommand.run, heq] at h
    exact absurd h (by simp)
  · rw [CheckCommand.run, heq, Outcome.final?_ended] at h
    have hback := (Bridge.standalone first).counter_of_lent
      (hinside.lent_eq m (by rw [← Outcome.final?_ended failure m, ← hm]; rfl))
    rw [← Option.some.inj h]
    cases failure <;> exact hback

/-- The trace of a standalone solver is that of its program, in brackets. -/
theorem CheckCommand.standalone_trace :
    ∃ closing, ((CheckCommand.unify level (.standalone first) body).run s).trace =
      ⟨.bridge level (.standalone first), .entered, .solving level (.start first) s.state⟩ ::
        ((body.run ⟨s, .start first⟩).trace ++ closing) := by
  rcases ((Bridge.standalone first).bracket level).around_cases body.run s with
    ⟨-, heq⟩ | ⟨failure, m, -, heq⟩
  · refine ⟨[], ?_⟩
    rw [CheckCommand.run, heq, List.append_nil]
    rfl
  · refine ⟨[((Bridge.standalone first).bracket level).closing s failure m], ?_⟩
    rw [CheckCommand.run, heq]
    rfl

/-- A standalone solver that succeeds tells of the counter of its program. -/
theorem CheckCommand.standalone_finished {t : Session}
    (h : ((CheckCommand.unify level (.standalone first) body).run s).outcome = .finished t) :
    ∃ m, (body.run ⟨s, .start first⟩).outcome = .finished m ∧
      ((CheckCommand.unify level (.standalone first) body).run s).trace.getLast? =
        some ⟨.bridge level (.standalone first),
          .finished (.solvedUpTo level m.solver.nextUnknown m.solver.substitution),
          .checking t.state⟩ := by
  -- failures pass through the bracket, so its program has finished
  obtain ⟨m, hm, rfl⟩ := (Bridge.bracket_passes level (.standalone first)).exists_of_finished h
  have hleave : ((Bridge.standalone first).bracket level).leave s none m =
      (.ok (.solvedUpTo level m.solver.nextUnknown m.solver.substitution), m.session) := rfl
  have hrun : (CheckCommand.unify level (.standalone first) body).run s = _ :=
    Bracket.around_of_leave none hm hleave
  refine ⟨m, hm, ?_⟩
  rw [hrun, ← List.cons_append, List.getLast?_concat]
  rfl

end Solver

/-- **Only a lifted solver that succeeds moves the counter of a session.** However a check
program ends, the counter is not below where it was; and it is where it was if no lifted
solver has succeeded in the program. A check program inside a solver, and a standalone
solver from any number, leave the counter of their session as they have found it.

Take what a standalone solver hands out, itself or in lifted solvers inside of its check
programs, and leave out what other standalone solvers in it hand out. If no failure of a
lifted solver is caught there, the unknowns go up strictly in the order of time; none is
below the number that the solver has started from; and if it succeeds, all are below the
number that it ends with. -/
theorem CheckProgram.only_lift_moves_counter :
    (∀ (p : CheckProgram) (s t : Session), (p.run s).outcome.final? = some t →
      s.state.nextUnknown ≤ t.state.nextUnknown ∧
      ((∀ ev ∈ (p.run s).trace, ev.isLiftSuccess = false) →
        t.state.nextUnknown = s.state.nextUnknown)) ∧
    (∀ (level : Level) (body : CheckProgram) (s t : Solving level),
      ((SolverCommand.check body).run s).outcome.final? = some t →
      t.session.state.nextUnknown = s.session.state.nextUnknown) ∧
    ∀ (level : Level) (first : Nat) (body : SolverProgram level) (s : Session),
      let standalone := (CheckCommand.unify level (.standalone first) body).run s
      let inside := (body.run ⟨s, .start first⟩).trace
      let own := inside.outside []
      (∀ t, standalone.outcome.final? = some t → t.state.nextUnknown = s.state.nextUnknown) ∧
      (∃ closing, standalone.trace =
        ⟨.bridge level (.standalone first), .entered, .solving level (.start first) s.state⟩ ::
          (inside ++ closing)) ∧
      (inside.LiftFailuresEscape → own.LiftFailuresEscape) ∧
      (own.LiftFailuresEscape →
        own.minted.Pairwise (· < ·) ∧ (∀ u ∈ own.minted, first ≤ u) ∧
        ∀ t, standalone.outcome = .finished t →
          ∃ next solved, standalone.trace.getLast? = some ⟨.bridge level (.standalone first),
            .finished (.solvedUpTo level next solved), .checking t.state⟩ ∧
            ∀ u ∈ own.minted, u < next) := by
  refine ⟨?_, ?_, ?_⟩
  · intro p s t ht
    exact ⟨(Execution.rises_law.checkProgram p s).counter_le t ht,
      fun hnone => Execution.stays_law.checkProgram p s hnone t ht⟩
  · intro level body s t ht
    -- what is lent out behind a step of a solver is what was lent out in front of it
    have hlent := (Execution.rises_law.solverCommand (.check body) s).lent_eq t ht
    exact Option.some.inj hlent
  · intro level first body s standalone inside own
    have hclimbs := Execution.climbs_law.solverProgram body ⟨s, .start first⟩
    refine ⟨fun t ht => CheckCommand.standalone_counter first body s ht,
      CheckCommand.standalone_trace first body s,
      fun h => h.sublist (Trace.outside_sublist _ _), ?_⟩
    intro hescape
    have hascends := hclimbs.ascends [] rfl
    have hgoesUp := hascends.goesUp hescape
    refine ⟨hgoesUp.pairwise, hgoesUp.le, ?_⟩
    intro t ht
    obtain ⟨m, hm, hlast⟩ := CheckCommand.standalone_finished first body s ht
    -- a program that has finished has no failed lifted solver behind it
    have hnone := hescape.none_of_calm (hascends.calm m hm)
    have hbelow := hascends.below m (by rw [hm]; rfl) hnone
    exact ⟨_, _, hlast, hbelow⟩

/-- A check program in which one lifted solver succeeds, and another starts on its own. -/
def CheckProgram.lifting : CheckProgram :=
  .ofList [
    .unify .kind (.standalone 0) (.ofList [.act .fresh, .act .fresh]),
    .unify .kind .lift (.ofList [.act .fresh])]

/-- A solver that its check program moves up. A failure is caught in it. -/
def SolverProgram.jumping : SolverProgram .type :=
  .ofList [
    .act .freshUnknown,
    .check CheckProgram.lifting,
    .attempt (.ofList [.check (.ofList [.act (.fail (.single "no" none))])]),
    .act .fresh]

theorem SolverProgram.jumping_counter :
    let s : Session := ⟨⟨∅, 7, 0, none⟩, ∅⟩
    let failing : CheckProgram := .ofList [
      .unify .type .lift (.ofList [.act .fresh, .act (.fail (.single "no" none))])]
    let step := (SolverCommand.check CheckProgram.lifting).run (⟨s, .start 2⟩ : Solving .type)
    let standalone := (CheckCommand.unify .type (.standalone 2) jumping).run s
    let own := (jumping.run ⟨s, .start 2⟩).trace.outside []
    (∃ stack t, (failing.run s).outcome = .failed stack t ∧ t.state.nextUnknown = 7) ∧
    (∃ t, step.outcome = .finished t ∧ t.session.state.nextUnknown = 7 ∧
      t.solver.nextUnknown = 8) ∧
    own.minted = [2, 7, 8] ∧ own.minted.Pairwise (· < ·) ∧ (∀ u ∈ own.minted, 2 ≤ u) ∧
    ∃ t, standalone.outcome = .finished t ∧ t.state.nextUnknown = 7 ∧
      ∃ next solved, standalone.trace.getLast? = some ⟨.bridge .type (.standalone 2),
        .finished (.solvedUpTo .type next solved), .checking t.state⟩ ∧
        ∀ u ∈ own.minted, u < next := by
  intro s failing step standalone own
  obtain ⟨hchecks, hsteps, hstandalone⟩ := CheckProgram.only_lift_moves_counter
  refine ⟨?_, ?_, by decide, ?_⟩
  · -- no lifted solver has succeeded
    have hfailed : (failing.run s).outcome = .failed (.single "no" none) s := rfl
    have hnone : ∀ ev ∈ (failing.run s).trace, ev.isLiftSuccess = false := by decide
    obtain ⟨-, hcounter⟩ := hchecks failing s s (by rw [hfailed]; rfl)
    exact ⟨_, s, hfailed, hcounter hnone⟩
  · have hfinished : step.outcome = .finished ⟨s, .start 8⟩ := rfl
    have hcounter := hsteps .type CheckProgram.lifting ⟨s, .start 2⟩ ⟨s, .start 8⟩
      (congrArg Outcome.final? hfinished)
    exact ⟨_, hfinished, hcounter, rfl⟩
  · have hescape : own.LiftFailuresEscape := by
      unfold Trace.LiftFailuresEscape
      decide
    have hfinished : standalone.outcome = .finished s := rfl
    obtain ⟨hcounter, -, -, hown⟩ := hstandalone .type 2 jumping s
    obtain ⟨hpairwise, hfloor, hend⟩ := hown hescape
    exact ⟨hpairwise, hfloor, s, hfinished, hcounter s (by rw [hfinished]; rfl),
      hend s hfinished⟩

end TypingSession
