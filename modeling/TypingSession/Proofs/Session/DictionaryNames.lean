import TypingSession.Proofs.Session.Aftermath
import TypingSession.Session.Series

/-!
# TypingSession — dictionary names

A session counts its dictionary names beside its unknowns. But while the counter of
unknowns is lent, raised and put back, that of dictionary names is only ever counted up:
it passes through scopes, solvers and failures as it is, and no environment contains it.

* `Execution.numbers_law` — every event of a run shows the number of names handed out
  up to then.
* `CheckProgram.nameless` — a program without the commands that hand out a name. Its run
  is that of the program, with these commands and the counter left out
  (`CheckProgram.run_nameless`).
* `CheckProgram.dictionaryNames_dense` — names are handed out one after the other, and
  nothing else depends on them.
-/

namespace TypingSession

open Observable (moment)

/-! ## Names are handed out one after the other -/

/-- The next dictionary name at a moment. -/
def Moment.nextDictionary (m : Moment) : Nat := m.state.nextDictionary

/-- How dictionary names are counted at an event, from `n`. -/
def Event.Numbers (n : Nat) (ev : Event) : Prop :=
  (ev.dictionaryName? = none ∧ ev.moment.nextDictionary = n) ∨
    (ev.dictionaryName? = some n ∧ ev.moment.nextDictionary = n + 1)

namespace Trace

theorem dictionaryNames_append (t t' : Trace) :
    dictionaryNames (t ++ t') = t.dictionaryNames ++ t'.dictionaryNames :=
  List.filterMap_append

theorem dictionaryNames_cons_none {ev : Event} (h : ev.dictionaryName? = none) (t : Trace) :
    dictionaryNames (ev :: t) = t.dictionaryNames :=
  List.filterMap_cons_none h

theorem dictionaryNames_cons_some {ev : Event} {n : Nat} (h : ev.dictionaryName? = some n)
    (t : Trace) : dictionaryNames (ev :: t) = n :: t.dictionaryNames :=
  List.filterMap_cons_some h

/-- The events of a trace count dictionary names one by one, from `n`. -/
def Numbered : Nat → Trace → Prop
  | _, [] => True
  | n, ev :: rest => ev.Numbers n ∧ Numbered ev.moment.nextDictionary rest

/-- The counter behind an event is ahead of the one in front by what is handed out. -/
theorem counter_of_numbers {n : Nat} {ev : Event} (h : ev.Numbers n) :
    ev.moment.nextDictionary = n + (dictionaryNames [ev]).length := by
  rcases h with ⟨hnone, hcounter⟩ | ⟨hsome, hcounter⟩
  · rw [dictionaryNames_cons_none hnone, hcounter]
    rfl
  · rw [dictionaryNames_cons_some hsome, hcounter]
    rfl

theorem dictionaryNames_length_cons (ev : Event) (t : Trace) :
    (dictionaryNames (ev :: t)).length =
      (dictionaryNames [ev]).length + t.dictionaryNames.length := by
  rw [← List.length_append, ← dictionaryNames_append]
  rfl

theorem numbered_append {n : Nat} {t t' : Trace} :
    Numbered n (t ++ t') ↔ Numbered n t ∧ Numbered (n + t.dictionaryNames.length) t' := by
  induction t generalizing n with
  | nil => exact ⟨fun h => ⟨trivial, h⟩, fun h => h.2⟩
  | cons ev rest ih =>
    rw [List.cons_append, Numbered, Numbered, ih, and_assoc, and_congr_right_iff]
    intro hev
    -- the rest begins at the counter behind the first event
    rw [counter_of_numbers hev, dictionaryNames_length_cons ev rest, Nat.add_assoc]

/-- What is handed out in a trace is one name after the other. -/
theorem Numbered.dictionaryNames_eq {n : Nat} {t : Trace} (h : t.Numbered n) :
    t.dictionaryNames = List.range' n t.dictionaryNames.length := by
  induction t generalizing n with
  | nil => rfl
  | cons ev rest ih =>
    obtain ⟨hev, hrest⟩ := h
    have ihrest := ih hrest
    rcases hev with ⟨hnone, hcounter⟩ | ⟨hsome, hcounter⟩
    · rw [hcounter] at ihrest
      rw [dictionaryNames_cons_none hnone]
      exact ihrest
    · rw [hcounter] at ihrest
      rw [dictionaryNames_cons_some hsome, List.length_cons, List.range'_succ, ← ihrest]

/-- At each event the counter is ahead of the start by what has been handed out. -/
theorem Numbered.counter_eq {n : Nat} {t before after : Trace} {ev : Event} (h : t.Numbered n)
    (heq : t = before ++ ev :: after) :
    ev.moment.nextDictionary = n + (dictionaryNames (before ++ [ev])).length := by
  rw [heq, numbered_append] at h
  have hev := counter_of_numbers h.2.1
  rw [hev, dictionaryNames_append, List.length_append]
  omega

end Trace

theorem dictionaryName?_telling {subject : Subject} {result : Except ErrorStack Reply} {m : Moment}
    (h : ∀ n, result ≠ .ok (.dictionaryName n)) :
    (⟨subject, .telling result, m⟩ : Event).dictionaryName? = none := by
  cases result with
  | error stack => rfl
  | ok reply =>
    cases reply with
    | dictionaryName n => exact absurd rfl (h n)
    | _ => rfl

/-- A lookup answers with what it finds. -/
theorem map_mapError_ne {ε ε' β γ : Type} {r : Except ε β} {f : β → γ} {g : ε → ε'} {c : γ}
    (h : ∀ b, f b ≠ c) : (r.map f).mapError g ≠ .ok c := by
  intro heq
  obtain ⟨b, hb⟩ := exists_of_map_mapError heq
  exact h b hb

/-- An action hands out a dictionary name only if that is what it is for. -/
theorem CheckAction.perform_ne_dictionaryName {a : CheckAction} (h : a ≠ .freshDictionary)
    (s : Session) (n : Nat) : (a.perform s).1 ≠ .ok (.dictionaryName n) := by
  cases a with
  | freshDictionary => exact absurd rfl h
  | typeOf current name | kindOf current name => exact map_mapError_ne (by simp)
  | putEnvironment source => cases source <;> simp [perform]
  | guard stack condition => cases condition <;> simp [perform]
  | _ => simp [perform]

/-- A bracket answers with no dictionary name. -/
def Bracket.Nameless {σ τ : Type} (b : Bracket σ τ) : Prop :=
  ∀ s failure t n, (b.leave s failure t).1 ≠ .ok (.dictionaryName n)

theorem Wrapper.bracket_nameless (w : Wrapper) : w.bracket.Nameless := by
  intro s failure t n
  cases w <;> cases failure <;> simp [bracket]

theorem Bridge.bracket_nameless (level : Level) (b : Bridge) : (b.bracket level).Nameless := by
  intro s failure t n
  cases b <;> cases failure <;> simp [bracket]

theorem Solving.attempt_nameless (level : Level) : (Solving.attempt level).Nameless := by
  intro s failure t n
  simp [attempt]

theorem Solving.checkStep_nameless (level : Level) : (Solving.checkStep level).Nameless := by
  intro s failure t n
  cases failure <;> simp [checkStep]

/-- An action of a solver does the same in every session, and leaves the session alone. -/
theorem SolverAction.run_uniform {level : Level} (a : SolverAction level)
    (solver : Solver level.Term) :
    (∀ session, a.run ⟨session, solver⟩ = .exhausted) ∨
    ∃ result solver', (∀ n, result ≠ .ok (.dictionaryName n)) ∧
      ∀ session, a.run ⟨session, solver⟩ =
        .single (.solverAction level a) result ⟨session, solver'⟩ := by
  cases a with
  | freshUnknown =>
    cases hfresh : solver.fresh? with
    | none => exact Or.inl fun session => by simp only [run, hfresh]
    | some handed =>
      refine Or.inr ⟨.ok (.unknown handed.1), handed.2, by simp, fun session => ?_⟩
      simp only [run, hfresh]
  | fresh =>
    cases hfresh : solver.fresh? with
    | none => exact Or.inl fun session => by simp only [run, hfresh]
    | some handed =>
      refine Or.inr ⟨.ok (.freshTerm level handed.1), handed.2, by simp, fun session => ?_⟩
      simp only [run, hfresh]
  | solve u x =>
    refine Or.inr ?_
    cases hsolve : solver.solve u x with
    | ok solver' =>
      refine ⟨.ok (.substitution level solver'.substitution), solver', by simp, fun session => ?_⟩
      simp only [run, hsolve]
    | error e =>
      refine ⟨.error e.stack, solver, by simp, fun session => ?_⟩
      simp only [run, hsolve]
  | apply x =>
    exact Or.inr ⟨.ok (.term level (solver.substitution.apply x)), solver, by simp, fun _ => rfl⟩
  | substitution =>
    exact Or.inr ⟨.ok (.substitution level solver.substitution), solver, by simp, fun _ => rfl⟩
  | fail stack => exact Or.inr ⟨.error stack, solver, by simp, fun _ => rfl⟩

namespace Execution

variable {σ τ : Type} [Observable σ] [Observable τ]

/-- An execution counts dictionary names one by one, up to the state that it ends in. -/
structure Numbers (s : σ) (e : Execution σ) : Prop where
  numbered : e.trace.Numbered (moment s).nextDictionary
  final_eq : ∀ t, e.outcome.final? = some t →
    (moment t).nextDictionary = (moment s).nextDictionary + e.trace.dictionaryNames.length

namespace Numbers

theorem idle (s : σ) : (Execution.idle s).Numbers s where
  numbered := trivial
  final_eq t h := by
    obtain rfl : s = t := Option.some.inj h
    rfl

theorem andThen {s : σ} {e : Execution σ} {next : σ → Execution σ} (first : e.Numbers s)
    (second : ∀ t, e.outcome = .finished t → (next t).Numbers t) :
    (e.andThen next).Numbers s := by
  rcases e.andThen_cases next with ⟨-, heq⟩ | ⟨m, hm, heq⟩
  · rw [heq]
    exact first
  · have hmid := first.final_eq m (by rw [hm]; rfl)
    -- the second execution goes on counting where the first has stopped
    obtain ⟨hnumbered, hfinal⟩ := second m hm
    rw [heq]
    constructor
    · rw [Trace.numbered_append, ← hmid]
      exact ⟨first.numbered, hnumbered⟩
    · intro t ht
      have hend := hfinal t ht
      rw [Trace.dictionaryNames_append, List.length_append]
      omega

theorem single {s t : σ} {subject : Subject} {result : Except ErrorStack Reply}
    (h : (⟨subject, .telling result, moment t⟩ : Event).Numbers (moment s).nextDictionary) :
    (Execution.single subject result t).Numbers s := by
  rw [single_eq]
  constructor
  · exact ⟨h, trivial⟩
  · intro t' ht
    rw [Outcome.final?_ended] at ht
    rw [← Option.some.inj ht]
    exact Trace.counter_of_numbers h

/-- No bracket touches the counter of dictionary names, on the way in or out. -/
theorem around {b : Bracket σ τ} (hb : b.Nameless) {body : τ → Execution τ} {s : σ}
    (inside : ∀ t, (body t).Numbers t)
    (henter : (moment (b.enter s)).nextDictionary = (moment s).nextDictionary)
    (hleave : ∀ failure t,
      (moment (b.leave s failure t).2).nextDictionary = (moment t).nextDictionary) :
    (b.around body s).Numbers s := by
  obtain ⟨hnumbered, hfinal⟩ := inside (b.enter s)
  have hopening : (b.opening s).dictionaryName? = none := rfl
  have hopen : (b.opening s).Numbers (moment s).nextDictionary := Or.inl ⟨hopening, henter⟩
  rcases b.around_cases body s with ⟨-, heq⟩ | ⟨failure, m, hm, heq⟩
  · rw [heq]
    exact ⟨⟨hopen, hnumbered⟩, fun t ht => absurd ht (by simp)⟩
  · have hclosing : (b.closing s failure m).dictionaryName? = none :=
      dictionaryName?_telling (hb s failure m)
    have hback := hleave failure m
    have hend := hfinal m (by rw [hm, Outcome.final?_ended])
    -- the closing event shows the counter that the body has left, whether it has failed or not
    have hclose : (b.closing s failure m).Numbers (moment m).nextDictionary :=
      Or.inl ⟨hclosing, hback⟩
    rw [heq]
    constructor
    · refine ⟨hopen, Trace.numbered_append.mpr ⟨hnumbered, ?_, trivial⟩⟩
      show (b.closing s failure m).Numbers ((moment (b.enter s)).nextDictionary + _)
      rw [← hend]
      exact hclose
    · intro t ht
      rw [Outcome.final?_ended] at ht
      rw [← Option.some.inj ht, hback, hend, henter, Trace.dictionaryNames_cons_none hopening,
        Trace.dictionaryNames_append, Trace.dictionaryNames_cons_none hclosing]
      simp [Trace.dictionaryNames]

end Numbers

/-- The law of dictionary names. -/
theorem numbers_law : RunLaw (fun s e => e.Numbers s) (fun _ s e => e.Numbers s) where
  idle := Numbers.idle
  andThen := Numbers.andThen
  action a s := by
    show (single (.action a) (a.perform s).1 (a.perform s).2).Numbers s
    refine Numbers.single ?_
    by_cases h : a = .freshDictionary
    · rw [h]
      exact Or.inr ⟨rfl, rfl⟩
    · -- no other action counts, not even one that replaces the environment
      have hsame : (a.perform s).2.state.nextDictionary = s.state.nextDictionary := by
        cases a with
        | freshDictionary => exact absurd rfl h
        | putEnvironment source => cases source <;> rfl
        | _ => rfl
      exact Or.inl ⟨dictionaryName?_telling (CheckAction.perform_ne_dictionaryName h s), hsame⟩
  wrapper w body s inside := by
    -- a scope puts back a field of the environment, and the counter is no part of that
    refine Numbers.around w.bracket_nameless inside ?_ ?_
    · cases w <;> rfl
    · intro failure t
      cases w <;> cases failure <;> rfl
  bridge {level} b body s inside := by
    -- what a solver stores in its session is the counter of unknowns only
    refine Numbers.around (b.bracket_nameless level) inside ?_ ?_
    · cases b <;> rfl
    · intro failure t
      cases b <;> cases failure <;> rfl
  solverIdle := Numbers.idle
  solverAndThen := Numbers.andThen
  solverAction a s := by
    rcases a.run_uniform s.solver with hexhausted | ⟨result, solver, hresult, hrun⟩
    · have hs : a.run s = .exhausted := hexhausted s.session
      rw [hs]
      exact ⟨trivial, fun t ht => absurd ht (by simp [exhausted])⟩
    · have hs : a.run s = .single _ result ⟨s.session, solver⟩ := hrun s.session
      rw [hs]
      exact Numbers.single (Or.inl ⟨dictionaryName?_telling hresult, rfl⟩)
  attempt {level} _ _ inside :=
    Numbers.around (Solving.attempt_nameless level) inside rfl fun _ _ => rfl
  checkStep {level} _ _ inside :=
    Numbers.around (Solving.checkStep_nameless level) inside rfl fun _ _ => rfl

end Execution

/-! ## Nothing depends on dictionary names -/

/-- Whether a command hands out a dictionary name. -/
def CheckCommand.handsOutName : CheckCommand → Bool
  | .act .freshDictionary => true
  | .act _ | .wrap _ _ | .unify _ _ _ => false

mutual

/-- A check program without the commands that hand out dictionary names, at any depth. -/
def CheckProgram.nameless : CheckProgram → CheckProgram
  | .done => .done
  | .step command rest =>
    if command.handsOutName then rest.nameless else .step command.nameless rest.nameless

/-- The same of a check command, itself kept. -/
def CheckCommand.nameless : CheckCommand → CheckCommand
  | .act a => .act a
  | .wrap w body => .wrap w body.nameless
  | .unify level b body => .unify level b body.nameless

/-- The same of a solver program. -/
def SolverProgram.nameless : {level : Level} → SolverProgram level → SolverProgram level
  | _, .done => .done
  | _, .step command rest => .step command.nameless rest.nameless

/-- The same of a solver command. -/
def SolverCommand.nameless : {level : Level} → SolverCommand level → SolverCommand level
  | _, .act a => .act a
  | _, .attempt body => .attempt body.nameless
  | _, .check body => .check body.nameless

end

/-- A state with no dictionary name handed out. -/
def State.nameless (s : State) : State := { s with nextDictionary := 0 }

/-- The same of a session. -/
def Session.nameless (s : Session) : Session := { s with state := s.state.nameless }

/-- The same of a solver at work in a session. -/
def Solving.nameless {level : Level} (s : Solving level) : Solving level :=
  { s with session := s.session.nameless }

/-- A moment without its dictionary names. -/
def Moment.nameless : Moment → Moment
  | checking state => checking state.nameless
  | solving level solver state => solving level solver state.nameless

/-- An event without its dictionary names. -/
def Event.nameless (ev : Event) : Event := { ev with moment := ev.moment.nameless }

/-- A trace without its dictionary names, and without the events that hand them out. -/
def Trace.nameless (t : Trace) : Trace :=
  (t.filter fun ev => ev.dictionaryName?.isNone).map Event.nameless

/-- An outcome with another final state. -/
def Outcome.map {σ τ : Type} (f : σ → τ) : Outcome σ → Outcome τ
  | finished s => finished (f s)
  | failed stack s => failed stack (f s)
  | exhausted => exhausted

theorem Outcome.map_ended {σ τ : Type} (f : σ → τ) (failure : Option ErrorStack) (s : σ) :
    (Outcome.ended failure s).map f = .ended failure (f s) := by
  cases failure <;> rfl

namespace Trace

theorem nameless_append (t t' : Trace) : (t ++ t').nameless = t.nameless ++ t'.nameless := by
  unfold nameless
  rw [List.filter_append, List.map_append]

theorem nameless_cons_none {ev : Event} (h : ev.dictionaryName? = none) (t : Trace) :
    nameless (ev :: t) = ev.nameless :: t.nameless := by
  unfold nameless
  rw [List.filter_cons_of_pos (by rw [h]; rfl), List.map_cons]

theorem nameless_cons_some {ev : Event} {n : Nat} (h : ev.dictionaryName? = some n) (t : Trace) :
    nameless (ev :: t) = t.nameless := by
  unfold nameless
  rw [List.filter_cons_of_neg (by rw [h]; simp)]

/-- What hands out a dictionary name hands out no unknown. -/
theorem minted_nameless (t : Trace) : t.nameless.minted = t.minted := by
  induction t with
  | nil => rfl
  | cons ev rest ih =>
    cases h : ev.dictionaryName? with
    | none =>
      rw [nameless_cons_none h]
      -- only the moment of the event is another
      have hsame : ev.nameless.minted? = ev.minted? := rfl
      cases hminted : ev.minted? with
      | none => rw [minted_cons_none (hsame.trans hminted), minted_cons_none hminted, ih]
      | some u => rw [minted_cons_some (hsame.trans hminted), minted_cons_some hminted, ih]
    | some n =>
      have hnone : ev.minted? = none := by
        unfold Event.dictionaryName? at h
        unfold Event.minted?
        split at h
        · next hstage =>
          rw [hstage]
          rfl
        · exact absurd h (by simp)
      rw [nameless_cons_some h, minted_cons_none hnone, ih]

end Trace

namespace Execution

variable {σ τ : Type} [Observable σ] [Observable τ] {f : σ → σ} {g : τ → τ}

/-- An execution without its dictionary names, where `f` takes them out of its states. -/
def nameless (f : σ → σ) (e : Execution σ) : Execution σ := ⟨e.trace.nameless, e.outcome.map f⟩

omit [Observable σ] in
theorem nameless_idle (s : σ) : (idle s).nameless f = idle (f s) := rfl

omit [Observable σ] in
theorem nameless_andThen (e : Execution σ) {next next' : σ → Execution σ}
    (h : ∀ t, (next t).nameless f = next' (f t)) :
    (e.andThen next).nameless f = (e.nameless f).andThen next' := by
  cases hend : e.outcome with
  | finished t =>
    have hend' : (e.nameless f).outcome = .finished (f t) := by
      unfold nameless
      rw [hend]
      rfl
    -- both go on, from states that are the same without dictionary names
    rw [andThen_of_finished hend, andThen_of_finished hend', ← h t]
    unfold nameless
    rw [Trace.nameless_append]
  | failed stack t | exhausted =>
    have hend' : ∀ t', (e.nameless f).outcome ≠ .finished t' := by
      unfold nameless
      rw [hend]
      simp [Outcome.map]
    rw [andThen_of_not_finished (by simp [hend]), andThen_of_not_finished hend']

theorem nameless_single (hf : ∀ s, moment (f s) = (moment s).nameless) {subject : Subject}
    {result : Except ErrorStack Reply} (h : ∀ n, result ≠ .ok (.dictionaryName n)) (t : σ) :
    (single subject result t).nameless f = single subject result (f t) := by
  rw [single_eq, single_eq]
  unfold nameless
  rw [Trace.nameless_cons_none (dictionaryName?_telling h), Outcome.map_ended, hf]
  rfl

/-- A bracket that deals with dictionary names in no way is the same around a body without
them. -/
theorem nameless_around {b : Bracket σ τ} (hb : b.Nameless)
    (hf : ∀ s, moment (f s) = (moment s).nameless)
    (hg : ∀ t, moment (g t) = (moment t).nameless)
    {body body' : τ → Execution τ} (s : σ) (hbody : ∀ t, (body t).nameless g = body' (g t))
    (henter : b.enter (f s) = g (b.enter s))
    (hleave : ∀ failure t, b.leave (f s) failure (g t) =
      ((b.leave s failure t).1, f (b.leave s failure t).2)) :
    (b.around body s).nameless f = b.around body' (f s) := by
  have hinside : body' (b.enter (f s)) = (body (b.enter s)).nameless g := by
    rw [henter, hbody]
  have hnone : (b.opening s).dictionaryName? = none := rfl
  have hopening : (b.opening s).nameless = b.opening (f s) := by
    unfold Bracket.opening
    rw [henter, hg]
    rfl
  rcases b.around_cases body s with ⟨hend, heq⟩ | ⟨failure, m, hend, heq⟩
  · have hend' : (body' (b.enter (f s))).outcome = .exhausted := by
      rw [hinside]
      unfold nameless
      rw [hend]
      rfl
    rw [heq, Bracket.around_of_exhausted hend', hinside]
    unfold nameless
    rw [Trace.nameless_cons_none hnone, hopening]
    rfl
  · have hclosing : (b.closing s failure m).dictionaryName? = none :=
      dictionaryName?_telling (hb s failure m)
    have hend' : (body' (b.enter (f s))).outcome = .ended failure (g m) := by
      rw [hinside]
      unfold nameless
      rw [hend, Outcome.map_ended]
    rw [heq, Bracket.around_of_leave failure hend' (hleave failure m), hinside]
    unfold nameless
    rw [Trace.nameless_cons_none hnone, Trace.nameless_append,
      Trace.nameless_cons_none hclosing, hopening, Outcome.map_ended, hf]
    rfl

end Execution

theorem Session.moment_nameless (s : Session) : moment s.nameless = (moment s).nameless := rfl

theorem Solving.moment_nameless {level : Level} (s : Solving level) :
    moment s.nameless = (moment s).nameless := rfl

/-- An action that hands out no dictionary name does not look at them either. -/
theorem CheckAction.perform_nameless {a : CheckAction} (h : a ≠ .freshDictionary) (s : Session) :
    a.perform s.nameless = ((a.perform s).1, (a.perform s).2.nameless) := by
  cases a with
  | freshDictionary => exact absurd rfl h
  | putEnvironment source => cases source <;> rfl
  | _ => rfl

theorem CheckAction.run_nameless {a : CheckAction} (h : a ≠ .freshDictionary) (s : Session) :
    (a.run s).nameless Session.nameless = a.run s.nameless := by
  have hperform := perform_nameless h s
  show (Execution.single (.action a) (a.perform s).1 (a.perform s).2).nameless _ =
    .single (.action a) (a.perform s.nameless).1 (a.perform s.nameless).2
  rw [Execution.nameless_single Session.moment_nameless (perform_ne_dictionaryName h s), hperform]

theorem SolverAction.run_nameless {level : Level} (a : SolverAction level) (s : Solving level) :
    (a.run s).nameless Solving.nameless = a.run s.nameless := by
  rcases a.run_uniform s.solver with hexhausted | ⟨result, solver, hresult, hrun⟩
  · have hs : a.run s = .exhausted := hexhausted s.session
    have hs' : a.run s.nameless = .exhausted := hexhausted s.session.nameless
    rw [hs, hs']
    rfl
  · have hs : a.run s = .single _ result ⟨s.session, solver⟩ := hrun s.session
    have hs' : a.run s.nameless = .single _ result ⟨s.session.nameless, solver⟩ :=
      hrun s.session.nameless
    rw [hs, hs', Execution.nameless_single Solving.moment_nameless hresult]
    rfl

/-- Handing out a dictionary name does nothing else. -/
theorem CheckCommand.run_of_handsOutName {command : CheckCommand}
    (h : command.handsOutName = true) (s : Session) :
    (command.run s).nameless Session.nameless = .idle s.nameless := by
  obtain rfl : command = .act .freshDictionary := by
    cases command with
    | act a =>
      cases a with
      | freshDictionary => rfl
      | _ => exact absurd h (by simp [handsOutName])
    | wrap w body | unify level b body => exact absurd h (by simp [handsOutName])
  rfl

mutual

/-- Without its dictionary names, the run of a program is that of the program without the
commands that hand them out: one case for each constructor. -/
theorem CheckProgram.run_nameless : (p : CheckProgram) → (s : Session) →
    (p.run s).nameless Session.nameless = p.nameless.run s.nameless
  | .done, s => Execution.nameless_idle s
  | .step command rest, s => by
    rw [CheckProgram.run, Execution.nameless_andThen _ rest.run_nameless, CheckProgram.nameless]
    cases h : command.handsOutName with
    | true =>
      -- what is left of the command is nothing, and the rest starts where it has started
      rw [if_pos rfl, command.run_of_handsOutName h, Execution.idle_andThen]
    | false =>
      rw [if_neg (by simp), command.run_nameless h, CheckProgram.run]

theorem CheckCommand.run_nameless : (command : CheckCommand) → command.handsOutName = false →
    (s : Session) → (command.run s).nameless Session.nameless = command.nameless.run s.nameless
  | .act a, h, s => by
    have ha : a ≠ .freshDictionary := by
      rintro rfl
      exact absurd h (by simp [CheckCommand.handsOutName])
    exact CheckAction.run_nameless ha s
  | .wrap w body, _, s => by
    refine Execution.nameless_around w.bracket_nameless Session.moment_nameless
      Session.moment_nameless s body.run_nameless ?_ ?_
    · cases w <;> rfl
    · intro failure t
      cases w <;> cases failure <;> rfl
  | .unify level b body, _, s => by
    refine Execution.nameless_around (b.bracket_nameless level) Session.moment_nameless
      Solving.moment_nameless s body.run_nameless ?_ ?_
    · cases b <;> rfl
    · intro failure t
      cases b <;> cases failure <;> rfl

theorem SolverProgram.run_nameless : {level : Level} → (p : SolverProgram level) →
    (s : Solving level) → (p.run s).nameless Solving.nameless = p.nameless.run s.nameless
  | _, .done, s => Execution.nameless_idle s
  | _, .step command rest, s => by
    rw [SolverProgram.run, Execution.nameless_andThen _ rest.run_nameless, command.run_nameless]
    rfl

theorem SolverCommand.run_nameless : {level : Level} → (command : SolverCommand level) →
    (s : Solving level) → (command.run s).nameless Solving.nameless = command.nameless.run s.nameless
  | _, .act a, s => a.run_nameless s
  | level, .attempt body, s =>
    Execution.nameless_around (Solving.attempt_nameless level) Solving.moment_nameless
      Solving.moment_nameless s body.run_nameless rfl fun _ _ => rfl
  | level, .check body, s => by
    refine Execution.nameless_around (Solving.checkStep_nameless level) Solving.moment_nameless
      Session.moment_nameless s body.run_nameless rfl ?_
    intro failure t
    cases failure <;> rfl

end

/-! ## Requests -/

namespace Outcome

/-- What a request answers with that ends like this, and where the next one begins. -/
def answer? (verbose : Bool) (e : Environment) :
    Outcome Session → Option (Answer × Environment × Shelf)
  | finished s => some (.environment s.state.environment, s.state.environment, s.shelf)
  | failed stack s => some (.report (stack.report verbose), e, s.shelf)
  | exhausted => none

theorem answer?_map_nameless (verbose : Bool) (e : Environment) (o : Outcome Session) :
    (o.map Session.nameless).answer? verbose e = o.answer? verbose e := by
  cases o <;> rfl

end Outcome

theorem Request.run?_answer (r : Request) (e : Environment) (shelf : Shelf) :
    (r.run? e shelf).map (fun (record, next) => (record.answer, next)) =
      (r.program.run (.start e shelf)).outcome.answer? r.verbose e := by
  unfold run?
  cases h : (r.program.run (.start e shelf)).outcome <;> simp only [h] <;> rfl

/-! ## The two counters -/

/-- **Dictionary names are handed out one after the other, and nothing else depends on
them.** However a run ends, the names handed out anywhere in it, in order of time, are those
from the counter on, without gaps and without repetitions; and at every event, in scopes, in
solvers and behind failures alike, the counter is ahead of the start by as many as have been
handed out. So a request hands out 0, 1, 2, ...

Two programs that only differ in where they hand out dictionary names do the same but for
that: leave out these commands and the counter, and the events are the same, with the same
unknowns, environments, answers and failures, and so are the ends. Requests to run them
answer with the same environment or the same report, and leave the same behind. -/
theorem CheckProgram.dictionaryNames_dense :
    (∀ (p : CheckProgram) (s : Session),
      let run := p.run s
      let names := run.trace.dictionaryNames
      names = List.range' s.state.nextDictionary names.length ∧
      (∀ before ev after, run.trace = before ++ ev :: after →
        ev.moment.state.nextDictionary =
          s.state.nextDictionary + (Trace.dictionaryNames (before ++ [ev])).length) ∧
      ∀ t, run.outcome.final? = some t →
        t.state.nextDictionary = s.state.nextDictionary + names.length) ∧
    (∀ (p : CheckProgram) (e : Environment) (shelf : Shelf),
      let names := (p.run (.start e shelf)).trace.dictionaryNames
      names = List.range names.length) ∧
    ∀ p q : CheckProgram, p.nameless = q.nameless →
      (∀ s : Session,
        (p.run s).trace.nameless = (q.run s).trace.nameless ∧
        (p.run s).trace.minted = (q.run s).trace.minted ∧
        (p.run s).outcome.map Session.nameless = (q.run s).outcome.map Session.nameless) ∧
      ∀ (verbose : Bool) (e : Environment) (shelf : Shelf),
        ((⟨verbose, p⟩ : Request).run? e shelf).map (fun (record, next) => (record.answer, next)) =
          ((⟨verbose, q⟩ : Request).run? e shelf).map (fun (record, next) => (record.answer, next)) := by
  refine ⟨?_, ?_, ?_⟩
  · intro p s run names
    obtain ⟨hnumbered, hfinal⟩ := Execution.numbers_law.checkProgram p s
    exact ⟨hnumbered.dictionaryNames_eq, fun _ _ _ heq => hnumbered.counter_eq heq, hfinal⟩
  · intro p e shelf names
    have hnumbers := Execution.numbers_law.checkProgram p (.start e shelf)
    rw [List.range_eq_range']
    exact hnumbers.numbered.dictionaryNames_eq
  · intro p q hsame
    -- both runs come down to the same one, without dictionary names
    have hrun : ∀ s, (p.run s).nameless Session.nameless = (q.run s).nameless Session.nameless := by
      intro s
      calc (p.run s).nameless Session.nameless
          _ = p.nameless.run s.nameless := p.run_nameless s
          _ = q.nameless.run s.nameless := by rw [hsame]
          _ = (q.run s).nameless Session.nameless := (q.run_nameless s).symm
    have htrace : ∀ s, (p.run s).trace.nameless = (q.run s).trace.nameless :=
      fun s => congrArg Execution.trace (hrun s)
    have houtcome : ∀ s, (p.run s).outcome.map Session.nameless =
        (q.run s).outcome.map Session.nameless :=
      fun s => congrArg Execution.outcome (hrun s)
    constructor
    · intro s
      refine ⟨htrace s, ?_, houtcome s⟩
      rw [← Trace.minted_nameless, htrace, Trace.minted_nameless]
    · intro verbose e shelf
      rw [Request.run?_answer, Request.run?_answer, ← Outcome.answer?_map_nameless, houtcome,
        Outcome.answer?_map_nameless]

/-- A program that hands out dictionary names everywhere: in a scope and behind another
environment, in solvers, and in failures that are caught on both sides. -/
def CheckProgram.naming : CheckProgram :=
  let failing := CheckProgram.ofList [.act .freshDictionary, .act (.fail (.single "no" none))]
  .ofList [
    .act .freshDictionary,
    .wrap (.scope (.dictionaries [])) (.ofList [
      .act .freshDictionary,
      .act (.putEnvironment (.given ∅))]),
    .wrap .attempt failing,
    .unify .type .lift (.ofList [
      .act .fresh,
      .attempt (.ofList [.check failing]),
      .check (.ofList [
        .unify .kind (.standalone 5) (.ofList [
          .act .fresh,
          .check (.ofList [.act .freshDictionary])])])]),
    .act .freshDictionary]

theorem CheckProgram.naming_dense :
    let run := naming.run (.start ∅ ∅)
    let bare := naming.nameless.run (.start ∅ ∅)
    run.trace.dictionaryNames = List.range 6 ∧
      (∃ t, run.outcome = .finished t ∧ t.state.nextDictionary = 6) ∧
      bare.trace.dictionaryNames = [] ∧ run.trace.minted = [0, 5] ∧ bare.trace.minted = [0, 5] ∧
      bare.outcome.map Session.nameless = run.outcome.map Session.nameless := by
  intro run bare
  obtain ⟨hnames, hrequests, hsame⟩ := dictionaryNames_dense
  obtain ⟨-, -, hfinal⟩ := hnames naming (.start ∅ ∅)
  have hlength : run.trace.dictionaryNames.length = 6 := by decide
  have hdense : run.trace.dictionaryNames = List.range 6 := by
    rw [← hlength]
    exact hrequests naming ∅ ∅
  have hfinished : run.outcome = .finished ⟨⟨∅, 1, 6, none⟩, ∅⟩ := rfl
  have hnameless : naming.nameless = naming.nameless.nameless := rfl
  obtain ⟨-, hminted, houtcome⟩ := (hsame naming naming.nameless hnameless).1 (.start ∅ ∅)
  have hunknowns : run.trace.minted = [0, 5] := by decide
  refine ⟨hdense, ⟨_, hfinished, ?_⟩, by decide, hunknowns, hminted.symm.trans hunknowns,
    houtcome.symm⟩
  have hcounter := hfinal _ (congrArg Outcome.final? hfinished)
  rw [hcounter, hlength]
  rfl

end TypingSession
