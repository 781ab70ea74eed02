import TypingSession.Proofs.Session.Counter
import TypingSession.Proofs.Session.Solving
import TypingSession.Proofs.Unification.Support

/-!
# TypingSession — fresh unknowns

A solver keeps a counter and a substitution, and nothing in a single state ties the
one to the other. What ties them is how the solver is used: as long as every equation
that it records is about unknowns below its counter, its substitution stays below the
counter as well. `ReachesKnown` collects the steps of a solver that is used like that.

* `ReachesKnown.of_run` — so is every run of a solver program whose own calls to solve
  are about unknowns below the counter of that moment.
* `ReachesKnown.within` — the substitution stays below the counter, which only rises.
* `Reaches.within` — what a substitution says nothing of stays that way until an
  equation about it is recorded.
* `Reaches.alreadySolved_iff` — an unknown that no equation was about is refused as solved
  when an equation about an alias has bound it.
* `fresh_of_reachesKnown` — what is handed out is untouched.
* `aliased_alreadySolved` — an unknown that is refused as solved at the first attempt.
-/

namespace TypingSession

variable {level : Level}

/-- An equation is about unknowns below the counter of a solver. -/
def Solver.Knows (s : Solver level.Term) (e : Nat × level.Term) : Prop :=
  e.1 < s.nextUnknown ∧ ∀ v ∈ unknowns e.2, v < s.nextUnknown

instance (s : Solver level.Term) (e : Nat × level.Term) : Decidable (s.Knows e) :=
  inferInstanceAs (Decidable (_ ∧ _))

mutual

/-- When the program is run from a state, each of its calls to solve is about unknowns
below the counter of that moment. The check programs that it runs, and the solvers in
them, may do as they like. -/
def SolverProgram.Known : {level : Level} → SolverProgram level → Solving level → Prop
  | _, .done, _ => True
  | _, .step command rest, s =>
    command.Known s ∧ ∀ t, (command.run s).outcome = .finished t → rest.Known t

/-- The same for a command. -/
def SolverCommand.Known : {level : Level} → SolverCommand level → Solving level → Prop
  | _, .act a, s => ∀ e ∈ a.equations, s.solver.Knows e
  | _, .attempt body, s => body.Known s
  | _, .check _, _ => True

end

theorem SolverProgram.Known.step_act {a : SolverAction level} {rest : SolverProgram level}
    {s t : Solving level} (ha : ∀ e ∈ a.equations, s.solver.Knows e)
    (hrun : (a.run s).outcome = .finished t) (hrest : rest.Known t) :
    (SolverProgram.step (.act a) rest).Known s := by
  refine ⟨ha, ?_⟩
  intro m hm
  obtain rfl : t = m := Outcome.finished.inj (hrun.symm.trans hm)
  exact hrest

theorem Execution.mem_minted_single {σ : Type} [Observable σ] {subject : Subject}
    {result : Except ErrorStack Reply} {t : σ} {u : Nat} :
    u ∈ (single subject result t).trace.minted ↔
      ∃ reply, result = .ok reply ∧ reply.minted? = some u := by
  cases result with
  | ok reply =>
    cases hminted : reply.minted? <;>
      simp [single, Trace.minted, Event.minted?, hminted, eq_comm]
  | error stack => simp [single, Trace.minted, Event.minted?]

namespace Solving

/-- A sequence of steps in which every equation that is recorded is about unknowns
below the counter of that moment. -/
inductive ReachesKnown (s : Solving level) : Solving level → Prop where
  | refl : ReachesKnown s s
  | step {new : List (Nat × level.Term)} {t t' : Solving level} :
    ReachesKnown s t → Step t new t' → (∀ e ∈ new, t.solver.Knows e) → ReachesKnown s t'

theorem ReachesKnown.trans {s t t' : Solving level} (h : ReachesKnown s t)
    (h' : ReachesKnown t t') : ReachesKnown s t' := by
  induction h' with
  | refl => exact h
  | step _ hstep hknown ih => exact ih.step hstep hknown

/-! ## Runs of programs -/

mutual

theorem ReachesKnown.of_run : {level : Level} → (p : SolverProgram level) →
    {s t : Solving level} → p.Known s → (p.run s).outcome.final? = some t → ReachesKnown s t
  | _, .done, s, t, _, h => by
    obtain rfl : s = t := Option.some.inj h
    exact .refl
  | _, .step command rest, s, t, hknown, h => by
    rw [SolverProgram.Known] at hknown
    obtain ⟨hcommand, hrest⟩ := hknown
    rw [SolverProgram.run] at h
    rcases (command.run s).andThen_cases rest.run with ⟨-, heq⟩ | ⟨m, hm, heq⟩
    · -- the run has ended with its first command
      rw [heq] at h
      exact ReachesKnown.of_command command hcommand h
    · rw [heq] at h
      have hfirst := ReachesKnown.of_command command hcommand (t := m) (by rw [hm]; rfl)
      exact hfirst.trans (ReachesKnown.of_run rest (hrest m hm) h)

theorem ReachesKnown.of_command : {level : Level} → (c : SolverCommand level) →
    {s t : Solving level} → c.Known s → (c.run s).outcome.final? = some t → ReachesKnown s t
  | _, .act a, s, t, hknown, h => by
    obtain ⟨failure, hended⟩ := Outcome.final?_eq_some h
    cases failure with
    | none => exact ReachesKnown.refl.step (.finished a hended) hknown
    | some stack =>
      -- nothing is recorded by an action that fails
      exact ReachesKnown.refl.step (.failed a hended) fun e he => absurd he List.not_mem_nil
  | level, .attempt body, s, t, hknown, h => by
    obtain ⟨failure, hended⟩ := Outcome.final?_eq_some h
    obtain ⟨inner, m, hm, -, rfl⟩ := Bracket.exists_of_around_ended failure hended
    -- the body starts and ends where the attempt does, whatever is caught in between
    have hbody : (body.run s).outcome = .ended inner m := hm
    exact ReachesKnown.of_run body hknown (by rw [hbody, Outcome.final?_ended]; rfl)
  | _, .check body, s, t, _, h =>
    ReachesKnown.refl.step (.check body h) fun e he => absurd he List.not_mem_nil

end

/-! ## What steps keep -/

/-- The counter of a solver does not fall in a step. -/
theorem Step.counter_le {s t : Solving level} {es : List (Nat × level.Term)} (h : Step s es t) :
    s.solver.nextUnknown ≤ t.solver.nextUnknown := by
  have haction : ∀ a : SolverAction level, (a.run s).outcome.final? = some t →
      s.solver.nextUnknown ≤ t.solver.nextUnknown := fun a ha =>
    (Execution.rises_law.solverAction a s).counter_le t ha
  cases h with
  | finished a h => exact haction a (by rw [h]; rfl)
  | failed a h => exact haction a (by rw [h]; rfl)
  | check body h => exact (Execution.rises_law.solverCommand (.check body) s).counter_le t h

/-- A step within a set of unknowns: it records only equations between such unknowns. -/
theorem Step.within {s t : Solving level} {es : List (Nat × level.Term)} {P : Nat → Prop}
    (h : Step s es t) (hs : s.solver.substitution.Within P)
    (hes : ∀ e ∈ es, P e.1 ∧ ∀ v ∈ unknowns e.2, P v) : t.solver.substitution.Within P := by
  rcases h.cases with ⟨-, hsame⟩ | ⟨u, x, rfl, hsolve⟩
  · rw [hsame]
    exact hs
  · obtain ⟨hu, hx⟩ := hes (u, x) List.mem_cons_self
    exact hs.of_solve hu hx hsolve

theorem Reaches.within {s t : Solving level} {es : List (Nat × level.Term)} {P : Nat → Prop}
    (h : Reaches s es t) (hs : s.solver.substitution.Within P)
    (hes : ∀ e ∈ es, P e.1 ∧ ∀ v ∈ unknowns e.2, P v) : t.solver.substitution.Within P := by
  induction h with
  | refl => exact hs
  | step _ hstep ih =>
    have hbefore := ih fun e he => hes e (List.mem_append_left _ he)
    exact hstep.within hbefore fun e he => hes e (List.mem_append_right _ he)

/-- The bound moves up with the counter: a step stays below the counter that it starts
from, and that is not above the counter behind it. -/
theorem ReachesKnown.within {s t : Solving level} (h : ReachesKnown s t)
    (hs : s.solver.substitution.Within (· < s.solver.nextUnknown)) :
    t.solver.substitution.Within (· < t.solver.nextUnknown) := by
  induction h with
  | refl => exact hs
  | step _ hstep hknown ih =>
    have hle := hstep.counter_le
    exact (hstep.within ih hknown).mono fun u hu => Nat.lt_of_lt_of_le hu hle

/-- What an action hands out is the counter, and the action solves nothing. -/
theorem run_minted {a : SolverAction level} {s t : Solving level} {u : Nat}
    (hu : u ∈ (a.run s).trace.minted) (ht : (a.run s).outcome.final? = some t) :
    u = s.solver.nextUnknown ∧ t.solver.substitution = s.solver.substitution := by
  rcases a.run_cases s with ⟨heq, -⟩ | ⟨-, reply, hreply, heq⟩ | ⟨result, m, heq, hresult, -, -⟩
  · rw [heq] at ht
    exact absurd ht (by simp [Execution.exhausted])
  · -- the counter is handed out, and nothing but the counter moves
    rw [heq] at hu ht
    obtain ⟨reply', hsame, hminted⟩ := Execution.mem_minted_single.mp hu
    obtain rfl := Except.ok.inj hsame
    rw [hreply] at hminted
    refine ⟨(Option.some.inj hminted).symm, ?_⟩
    rw [← Option.some.inj ht]
  · -- nothing is handed out
    rw [heq] at hu
    obtain ⟨reply, hok, hminted⟩ := Execution.mem_minted_single.mp hu
    rw [hresult reply hok] at hminted
    exact absurd hminted (by simp)

/-! ## Unknowns that are bound for an alias -/

/-- Among the equations that were recorded from `s` to `t` there is one about an alias of
`u`, an unknown that stood for `u` when the equation was recorded. What has come of it is
that `u`, which was unbound, is bound to `b`. -/
inductive BoundForAlias (s t : Solving level) (u : Nat) (b : level.Term) :
    List (Nat × level.Term) → Prop where
  | intro {before after : List (Nat × level.Term)} {w : Nat} {x : level.Term}
    {m m' : Solving level} (reached : Reaches s before m)
    (isAlias : m.solver.substitution.get? w = some (ofUnknown u))
    (unbound : m.solver.substitution.get? u = none)
    (recorded : Step m [(w, x)] m')
    (bound : m'.solver.substitution.get? u = some b)
    (later : Reaches m' after t) : BoundForAlias s t u b (before ++ (w, x) :: after)

/-- The step that binds an unknown records an equation about an unknown that stands for
it. -/
theorem Step.binds {s t : Solving level} {es : List (Nat × level.Term)} {u : Nat}
    (h : Step s es t) (hs : s.solver.substitution.get? u = none)
    (ht : t.solver.substitution.get? u ≠ none) :
    ∃ w x, es = [(w, x)] ∧ s.solver.substitution.apply (ofUnknown w) = ofUnknown u := by
  rcases h.cases with ⟨-, hsame⟩ | ⟨w, x, rfl, hsolve⟩
  · rw [hsame] at ht
    exact absurd hs ht
  · obtain ⟨v, hv, ⟨-, hsame⟩ | ⟨-, hnew⟩⟩ := Solver.solve_ok hsolve
    · rw [hsame] at ht
      exact absurd hs ht
    · by_cases huv : u = v
      · exact ⟨w, x, rfl, by rw [hv, huv]⟩
      · -- only what the unknown of the equation is followed to gets a binding
        rw [hnew] at ht
        exact absurd (Substitution.get?_compose_single_eq_none.mpr ⟨huv, hs⟩) ht

/-- An unknown that has been bound, though no equation about it was recorded, was bound
for an alias. -/
theorem Reaches.boundForAlias {s t : Solving level} {es : List (Nat × level.Term)} {u : Nat}
    (h : Reaches s es t) (hs : s.solver.substitution.get? u = none) (hes : ∀ e ∈ es, e.1 ≠ u)
    (ht : t.solver.substitution.get? u ≠ none) : ∃ b, BoundForAlias s t u b es := by
  induction h with
  | refl => exact absurd hs ht
  | @step before new m t hbefore hstep ih =>
    by_cases hm : m.solver.substitution.get? u = none
    · -- it was this step
      obtain ⟨w, x, rfl, hw⟩ := hstep.binds hm ht
      have hne : u ≠ w := (hes (w, x) (by simp)).symm
      obtain ⟨b, hb⟩ := Option.ne_none_iff_exists'.mp ht
      have halias := Substitution.get?_of_apply_ofUnknown_ne hw hne
      exact ⟨b, .intro hbefore halias hm hstep hb .refl⟩
    · -- it was bound before, and the step comes later
      obtain ⟨b, hb⟩ := ih (fun e he => hes e (List.mem_append_left _ he)) hm
      obtain ⟨reached, isAlias, unbound, recorded, bound, later⟩ := hb
      rw [List.append_assoc, List.cons_append]
      exact ⟨b, .intro reached isAlias unbound recorded bound (later.step hstep)⟩

/-- What an unknown has been bound to for an alias is what it stands for from then on. -/
theorem BoundForAlias.apply_eq {s t : Solving level} {es fs : List (Nat × level.Term)} {u : Nat}
    {b : level.Term} (h : BoundForAlias s t u b es) (hs : s.solver.substitution.MostGeneral fs) :
    t.solver.substitution.apply (ofUnknown u) = t.solver.substitution.apply b := by
  obtain ⟨reached, -, -, recorded, bound, later⟩ := h
  have hgeneral := (reached.step recorded).mostGeneral hs
  rw [← later.refines hgeneral (ofUnknown u), Substitution.apply_ofUnknown,
    Substitution.image_eq_of_get? bound]

/-- As long as no equation about an unknown was recorded, solving it fails for being solved
exactly when it was bound for an alias, to something that stands for no unknown by now. -/
theorem Reaches.alreadySolved_iff {s t : Solving level} {es fs : List (Nat × level.Term)}
    {u : Nat} (h : Reaches s es t) (hgeneral : s.solver.substitution.MostGeneral fs)
    (hs : s.solver.substitution.get? u = none) (hes : ∀ e ∈ es, e.1 ≠ u) (x : level.Term) :
    (∃ v y, t.solver.solve u x = .error (.alreadySolved v y)) ↔
      ∃ b, BoundForAlias s t u b es ∧ ∀ v, t.solver.substitution.apply b ≠ ofUnknown v := by
  rw [Solver.solve_alreadySolved_iff]
  constructor
  · intro hsolved
    have hbound : t.solver.substitution.get? u ≠ none := by
      intro hnone
      apply hsolved u
      rw [Substitution.apply_ofUnknown, Substitution.image_eq_ofUnknown hnone]
    obtain ⟨b, hb⟩ := h.boundForAlias hs hes hbound
    rw [hb.apply_eq hgeneral] at hsolved
    exact ⟨b, hb, hsolved⟩
  · rintro ⟨b, hb, hsolved⟩
    rw [hb.apply_eq hgeneral]
    exact hsolved

theorem ReachesKnown.reaches {s t : Solving level} (h : ReachesKnown s t) :
    ∃ es, Reaches s es t := by
  induction h with
  | refl => exact ⟨[], .refl⟩
  | step _ hstep _ ih =>
    obtain ⟨es, hes⟩ := ih
    exact ⟨_, hes.step hstep⟩

/-! ## Fresh unknowns -/

/-- **Fresh means untouched.** Let a solver have started anywhere with nothing solved,
and have recorded only equations about unknowns below its counter. Then everything that
its substitution mentions is below the counter, and there are no more bindings than the
counter says. So an unknown that the solver hands out is not bound, occurs in no term
that is bound, and stands for itself; and this stays so, whatever happens next, until an
equation that mentions it is recorded. Solving it does not fail for being solved until
then. From then on, a first attempt to solve it fails for that reason in one case only: an
equation about an alias of it has bound it, to a term that stands for no unknown by now. To
occur in a recorded term is not enough. -/
theorem fresh_of_reachesKnown (session : Session) (n : Nat) {s : Solving level}
    (h : ReachesKnown ⟨session, .start n⟩ s) :
    s.solver.substitution.Within (· < s.solver.nextUnknown) ∧
    s.solver.substitution.size ≤ s.solver.nextUnknown ∧
    ∀ (a : SolverAction level) (u : Nat) (t : Solving level),
      u ∈ (a.run s).trace.minted → (a.run s).outcome = .finished t →
      ∀ es t', Reaches t es t' →
        let current := t'.solver.substitution
        ((∀ e ∈ es, e.1 ≠ u ∧ u ∉ unknowns e.2) →
          current.get? u = none ∧
          (∀ v x, current.get? v = some x → u ∉ unknowns x) ∧
          current.apply (ofUnknown u) = ofUnknown u ∧
          ∀ x v y, t'.solver.solve u x ≠ .error (.alreadySolved v y)) ∧
        ((∀ e ∈ es, e.1 ≠ u) →
          ∀ x, (∃ v y, t'.solver.solve u x = .error (.alreadySolved v y)) ↔
            ∃ b, BoundForAlias t t' u b es ∧ ∀ v, current.apply b ≠ ofUnknown v) := by
  have hbelow := h.within Substitution.within_empty
  refine ⟨hbelow, hbelow.size_le, ?_⟩
  intro a u t hu ht es t' hlater current
  obtain ⟨rfl, hsame⟩ := run_minted hu (by rw [ht]; rfl)
  -- what is below the counter is not the counter
  have haway : t.solver.substitution.Within (· ≠ s.solver.nextUnknown) := by
    rw [hsame]
    exact hbelow.mono fun v hv => Nat.ne_of_lt hv
  refine ⟨?_, ?_⟩
  · intro hspared
    have hcurrent : current.Within (· ≠ s.solver.nextUnknown) := by
      apply hlater.within haway
      intro e he
      obtain ⟨hne, hnot⟩ := hspared e he
      refine ⟨hne, ?_⟩
      rintro v hv rfl
      exact hnot hv
    obtain ⟨hnone, hnowhere, hself⟩ := hcurrent.untouched
    exact ⟨hnone, hnowhere, hself, fun x v y => hcurrent.not_alreadySolved v y⟩
  · intro hfirst
    obtain ⟨fs, hfs⟩ := h.reaches
    have hgeneral : t.solver.substitution.MostGeneral fs := by
      rw [hsame]
      exact hfs.mostGeneral Substitution.mostGeneral_empty
    exact hlater.alreadySolved_iff hgeneral haway.untouched.1 hfirst

/-- A first attempt to solve an unknown can come too late. A solver hands out two unknowns,
lets the first stand for the second, and solves the first by a kind. That binds the second,
so the only call to solve the second fails. -/
theorem aliased_alreadySolved :
    let start : Solving .kind := ⟨.start ∅ ∅, .start 0⟩
    let calls : List (Nat × Kind) := [(0, .unknown 1), (0, .star), (1, .star)]
    let program : SolverProgram .kind := .ofList
      (.act .freshUnknown :: .act .freshUnknown :: calls.map fun e => .act (.solve e.1 e.2))
    program.Known start ∧ (program.run start).trace.minted = [0, 1] ∧
      ∃ s, ReachesKnown start s ∧
        s.solver.solve 1 .star = .error (.alreadySolved 1 .star) ∧
        (program.run start).outcome = .failed (SolveError.alreadySolved 1 Kind.star).stack s := by
  intro start calls program
  let followed : Substitution Kind := .compose ∅ (.single 0 (.unknown 1))
  let both : Substitution Kind := followed.compose (.single 1 .star)
  let s : Solving .kind := ⟨.start ∅ ∅, ⟨2, both⟩⟩
  have hrefused : s.solver.solve 1 .star = .error (.alreadySolved 1 .star) := rfl
  have hrun : (program.run start).outcome =
      .failed (SolveError.alreadySolved 1 Kind.star).stack s := rfl
  have hlast : (SolverProgram.ofList [.act (.solve 1 Kind.star)]).Known s := by
    refine ⟨?_, fun _ _ => trivial⟩
    show ∀ e ∈ [(1, Kind.star)], s.solver.Knows e
    decide
  have hknown : program.Known start :=
    .step_act (by decide) rfl <| .step_act (by decide) rfl <| .step_act (by decide) rfl <|
      .step_act (by decide) rfl hlast
  refine ⟨hknown, by decide, s, .of_run program hknown (by rw [hrun]; rfl), hrefused, hrun⟩

/-- A solver binds its first unknown to a type that holds its second, and runs a check
program that fails behind a solver of its own. The unknown that it hands out then is
still untouched once the second is solved. It is not refused as solved when the second is
bound to a type that holds it, and it is when the second stands for it and is solved. -/
theorem fresh_behindNested :
    let array (u : Nat) := (Ty.prim "Array").app (.unknown u)
    let bound : Substitution Ty := .compose ∅ (.single 0 (array 1))
    let counting (n : Nat) : Solving .type := ⟨.start ∅ ∅, ⟨n, bound⟩⟩
    let nested : CheckProgram := .ofList [
      .unify .kind .lift (.ofList [.act .freshUnknown]), .act (.fail (.single "no" none))]
    ((SolverCommand.check nested).run (counting 2)).outcome.final? = some (counting 3) ∧
      ReachesKnown ⟨.start ∅ ∅, .start 0⟩ (counting 3) ∧ bound.size ≤ 3 ∧
      (∃ t : Solving .type, Reaches (counting 4) [(1, Ty.var "a")] t ∧
        t.solver.substitution.apply (Ty.unknown 3) = Ty.unknown 3) ∧
      (∃ t : Solving .type, Reaches (counting 4) [(1, array 3)] t ∧
        ¬ ∃ b, BoundForAlias (counting 4) t 3 b [(1, array 3)] ∧
          ∀ v, t.solver.substitution.apply b ≠ ofUnknown v) ∧
      ∃ t : Solving .type, Reaches (counting 4) [(1, Ty.unknown 3), (1, Ty.var "a")] t ∧
        ∃ v y, t.solver.solve 3 (.var "b") = .error (.alreadySolved v y) := by
  intro array bound counting nested
  let start (n : Nat) : Solving .type := ⟨.start ∅ ∅, .start n⟩
  have first : Step (start 0) [] (start 1) := .finished .freshUnknown rfl
  have second : Step (start 1) [] (start 2) := .finished .fresh rfl
  have third : Step (start 2) [(0, array 1)] (counting 2) := Step.of_solve_ok rfl
  have hchecked :
      ((SolverCommand.check nested).run (counting 2)).outcome.final? = some (counting 3) := rfl
  have fourth : Step (counting 2) [] (counting 3) := .check nested hchecked
  have hknown : ReachesKnown (start 0) (counting 3) :=
    (((ReachesKnown.refl.step first (by decide)).step second (by decide)).step third
      (by decide)).step fourth (by decide)
  -- a third unknown is handed out
  have hfresh : (SolverAction.freshUnknown.run (counting 3)).outcome =
      .finished (counting 4) := rfl
  obtain ⟨-, hsize, hfrom⟩ := fresh_of_reachesKnown (.start ∅ ∅) 0 hknown
  have hlater := hfrom .freshUnknown 3 _ (by decide) hfresh
  let solving (s : Substitution Ty) : Solving .type := ⟨.start ∅ ∅, ⟨4, s⟩⟩
  refine ⟨hchecked, hknown, hsize, ⟨solving (bound.compose (.single 1 (.var "a"))), ?_⟩,
    ⟨solving (bound.compose (.single 1 (array 3))), ?_⟩,
    ⟨solving ((bound.compose (.single 1 (.unknown 3))).compose (.single 3 (.var "a"))), ?_⟩⟩
  · have hreached : Reaches (counting 4) [(1, Ty.var "a")] _ := (Step.of_solve_ok rfl).reaches
    obtain ⟨-, -, hself, -⟩ := (hlater _ _ hreached).1 (by decide)
    exact ⟨hreached, hself⟩
  · have hreached : Reaches (counting 4) [(1, array 3)] _ := (Step.of_solve_ok rfl).reaches
    let t := solving (bound.compose (.single 1 (array 3)))
    have hrecorded : t.solver.solve 3 (.var "b") =
        .ok ⟨4, t.solver.substitution.compose (.single 3 (.var "b"))⟩ := rfl
    refine ⟨hreached, fun hbound => ?_⟩
    obtain ⟨v, y, hrefused⟩ := ((hlater _ _ hreached).2 (by decide) (.var "b")).mpr hbound
    exact absurd (hrefused.symm.trans hrecorded) (by simp)
  · let followed : Solving .type := solving (bound.compose (.single 1 (.unknown 3)))
    have hfollowed : Step (counting 4) [(1, Ty.unknown 3)] followed := Step.of_solve_ok rfl
    have hsolved : Step followed [(1, Ty.var "a")] _ := Step.of_solve_ok rfl
    have hreached := hfollowed.reaches.step hsolved
    refine ⟨hreached, ((hlater _ _ hreached).2 (by decide) (.var "b")).mpr ⟨.var "a", ?_, ?_⟩⟩
    · exact .intro hfollowed.reaches rfl rfl hsolved rfl .refl
    · intro v
      show Ty.var "a" ≠ Ty.unknown v
      exact Ty.noConfusion

end Solving

end TypingSession
