import TypingSession.Proofs.Session.Confinement
import TypingSession.Proofs.Session.Lexical.Context

/-!
# TypingSession — scopes inside of scopes

Each of several nested scopes puts its field back as it found it, and the inner ones have
found it extended already. What counts in the end is the outermost scope of a field. So
nested scopes come to two things: the environment in which the body starts, and the fields
that are put back when it has succeeded, each of them as it was in front of all the scopes.
Scopes that agree in both can stand for each other (`interchangeable_of`), whatever the
body is and however it ends.

* `Scope.outcome_around` — what nested scopes make of the outcome of a body.
* `Scope.nested_scopes` — nested scopes of one field are one scope, and nested scopes of
  different fields can change places.
-/

namespace TypingSession

/-! ## Entries that override others -/

/-- The entries `b` are those of `b₁` overridden by those of `b₂`. Of several entries for
one key the last counts. -/
def Overridden {α : Type} (b₁ b₂ b : List (FullName × α)) : Prop :=
  ∀ key, b.reverse.lookup key = (b₂.reverse.lookup key).or (b₁.reverse.lookup key)

theorem overridden_append {α : Type} (b₁ b₂ : List (FullName × α)) :
    Overridden b₁ b₂ (b₁ ++ b₂) := by
  intro key
  rw [List.reverse_append, List.lookup_append]

/-- Binders that are bound in two steps, the outer ones first. -/
theorem overridden_map {α β : Type} (entry : β → FullName × α) (l₁ l₂ : List β) :
    Overridden (l₁.map entry) (l₂.map entry) ((l₁ ++ l₂).map entry) := by
  rw [List.map_append]
  exact overridden_append _ _

theorem Overridden.insertMany_eq {α : Type} {b₁ b₂ b : List (FullName × α)}
    (h : Overridden b₁ b₂ b) (t : Table α) : (t.insertMany b₁).insertMany b₂ = t.insertMany b := by
  apply Std.ExtTreeMap.ext_getElem?
  intro key
  rw [Table.getElem?_insertMany, Table.getElem?_insertMany, Table.getElem?_insertMany, h key,
    Option.or_assoc]

/-! ## Nested scopes -/

/-- Whether an event tells of a scope. -/
def Event.isScope (ev : Event) : Bool :=
  match ev.subject with
  | .wrapper (.scope _) => true
  | _ => false

/-- One execution is another with nothing but the events of scopes around it. -/
def Execution.Encloses (e inside : Execution Session) : Prop :=
  ∃ before after, e.trace = before ++ inside.trace ++ after ∧
    ∀ ev ∈ before ++ after, ev.isScope = true

theorem Execution.Encloses.refl (e : Execution Session) : e.Encloses e :=
  ⟨[], [], by simp, by simp⟩

theorem Execution.Encloses.trans {e e' e'' : Execution Session} (h : e.Encloses e')
    (h' : e'.Encloses e'') : e.Encloses e'' := by
  obtain ⟨before, after, htrace, hscopes⟩ := h
  obtain ⟨before', after', htrace', hscopes'⟩ := h'
  refine ⟨before ++ before', after' ++ after, by rw [htrace, htrace']; simp, ?_⟩
  intro ev hev
  simp only [List.mem_append] at hev hscopes hscopes'
  rcases hev with (hev | hev) | (hev | hev)
  · exact hscopes ev (Or.inl hev)
  · exact hscopes' ev (Or.inl hev)
  · exact hscopes' ev (Or.inr hev)
  · exact hscopes ev (Or.inr hev)

/-- The present environment with some fields put back as they were in an earlier one. -/
def Environment.putBack (fields : List Field) (earlier now : Environment) : Environment where
  names := if .names ∈ fields then earlier.names else now.names
  types := if .types ∈ fields then earlier.types else now.types
  dictionaries := if .dictionaries ∈ fields then earlier.dictionaries else now.dictionaries

/-- The outcome with a change to the session that a success leaves behind. -/
def Outcome.onSuccess (change : Session → Session) : Outcome Session → Outcome Session
  | finished s => finished (change s)
  | failed stack s => failed stack s
  | exhausted => exhausted

theorem Outcome.onSuccess_onSuccess (o : Outcome Session) (first second : Session → Session) :
    (o.onSuccess first).onSuccess second = o.onSuccess (second ∘ first) := by
  cases o <;> rfl

namespace Scope

/-- A body in scopes, the outermost of them first. -/
def around (scopes : List Scope) (body : Session → Execution Session) :
    Session → Execution Session :=
  scopes.foldr (fun added inner => (Wrapper.scope added).bracket.around inner) body

/-- The environment inside of scopes, the outermost of them first. -/
def extendAll (scopes : List Scope) (e : Environment) : Environment :=
  scopes.foldl (fun e added => added.extend e) e

/-- Two lists of scopes come to the same: around any body, and from any session, they have
the same outcome, and the body runs in the same session. -/
def Interchangeable (scopes scopes' : List Scope) : Prop :=
  ∀ (body : Session → Execution Session) (s : Session),
    (around scopes body s).outcome = (around scopes' body s).outcome ∧
      ∃ t, (around scopes body s).Encloses (body t) ∧ (around scopes' body s).Encloses (body t)

/-- A scope puts its field back over whatever the scopes inside of it have put back there. -/
theorem restore_putBack (added : Scope) (fields : List Field) (e now : Environment) :
    added.field.restore e (.putBack fields (added.extend e) now) =
      .putBack (added.field :: fields) e now := by
  cases added <;> simp [Environment.putBack, Field.restore, field, extend]

section Single

variable (added : Scope) (body : Session → Execution Session) (s : Session)

theorem encloses_single : ((Wrapper.scope added).bracket.around body s).Encloses
    (body (s.modifyEnvironment added.extend)) := by
  have hopening : ((Wrapper.scope added).bracket.opening s).isScope = true := rfl
  rcases (Wrapper.scope added).bracket.around_cases body s with ⟨-, heq⟩ | ⟨failure, t, -, heq⟩
  · -- there is no closing event once the unknowns have run out
    refine ⟨[(Wrapper.scope added).bracket.opening s], [], ?_, ?_⟩
    · rw [heq, List.append_nil]
      rfl
    · simp [hopening]
  · have hclosing : ((Wrapper.scope added).bracket.closing s failure t).isScope = true := rfl
    refine ⟨[(Wrapper.scope added).bracket.opening s],
      [(Wrapper.scope added).bracket.closing s failure t], ?_, ?_⟩
    · rw [heq]
      rfl
    · simp [hopening, hclosing]

theorem outcome_single : ((Wrapper.scope added).bracket.around body s).outcome =
    (body (s.modifyEnvironment added.extend)).outcome.onSuccess
      (·.modifyEnvironment (added.field.restore s.state.environment)) := by
  have henter : (Wrapper.scope added).bracket.enter s = s.modifyEnvironment added.extend := rfl
  rcases (Wrapper.scope added).bracket.around_cases body s with ⟨hinside, heq⟩ |
    ⟨failure, t, hinside, heq⟩
  · rw [heq, ← henter, hinside]
    rfl
  · -- only a success puts the field back
    rw [heq, ← henter, hinside]
    cases failure <;> rfl

end Single

/-- Nested scopes run their body once, in the environment that they extend one after the
other. -/
theorem encloses_around (scopes : List Scope) (body : Session → Execution Session) (s : Session) :
    (around scopes body s).Encloses (body (s.modifyEnvironment (extendAll scopes))) := by
  induction scopes generalizing s with
  | nil => exact .refl _
  | cons added rest ih =>
    exact (encloses_single added (around rest body) s).trans (ih (s.modifyEnvironment added.extend))

/-- When the body has succeeded, every field that one of the scopes is about is as it was in
front of all of them. -/
theorem outcome_around (scopes : List Scope) (body : Session → Execution Session) (s : Session) :
    (around scopes body s).outcome =
      (body (s.modifyEnvironment (extendAll scopes))).outcome.onSuccess
        (·.modifyEnvironment (.putBack (scopes.map field) s.state.environment)) := by
  induction scopes generalizing s with
  | nil =>
    show (body s).outcome = (body s).outcome.onSuccess _
    cases (body s).outcome <;> rfl
  | cons added rest ih =>
    -- the inner scopes put back what they have found here, and this scope has the last word
    have hputBack : (added.field.restore s.state.environment) ∘
        (.putBack (rest.map field) (added.extend s.state.environment)) =
        Environment.putBack ((added :: rest).map field) s.state.environment :=
      funext (restore_putBack added (rest.map field) s.state.environment)
    show ((Wrapper.scope added).bracket.around (around rest body) s).outcome = _
    rw [outcome_single, ih, Outcome.onSuccess_onSuccess, ← hputBack]
    rfl

/-- Scopes that extend an environment alike and are about the same fields come to the same. -/
theorem interchangeable_of {scopes scopes' : List Scope}
    (hextend : ∀ e, extendAll scopes e = extendAll scopes' e)
    (hfields : ∀ f, f ∈ scopes.map field ↔ f ∈ scopes'.map field) :
    Interchangeable scopes scopes' := by
  intro body s
  have hinside : extendAll scopes = extendAll scopes' := funext hextend
  -- the order of the fields does not count, nor how often one of them is put back
  have hputBack : Environment.putBack (scopes.map field) = .putBack (scopes'.map field) := by
    unfold Environment.putBack
    simp only [hfields]
  refine ⟨?_, s.modifyEnvironment (extendAll scopes), encloses_around scopes body s, ?_⟩
  · rw [outcome_around, outcome_around, hinside, hputBack]
  · rw [hinside]
    exact encloses_around scopes' body s

/-! ## Fusing scopes, and changing their places -/

/-- A scope with another one as its only command. -/
theorem run_nested (outer inner : Scope) (body : CheckProgram) :
    (CheckCommand.wrap (.scope outer) (.ofList [.wrap (.scope inner) body])).run =
      around [outer, inner] body.run := by
  have hinner : (CheckProgram.ofList [.wrap (.scope inner) body]).run =
      (CheckCommand.wrap (.scope inner) body).run :=
    funext (CheckProgram.run_step_done _)
  funext s
  rw [CheckCommand.run, hinner]
  rfl

theorem extend_comm {added added' : Scope} (h : added.field ≠ added'.field) (e : Environment) :
    added'.extend (added.extend e) = added.extend (added'.extend e) := by
  cases added <;> cases added' <;> simp_all [extend, field]

/-- **Nested scopes fuse and commute.** Programs run in scopes as any other body does. Around
any body and from any session, whether the body finishes, fails or runs out of unknowns, these
come to the same: two nested scopes of names or of types, and one with the entries of the outer
overridden by those of the inner; two nested scopes of dictionaries, and one with those of the
inner in front of those of the outer; two nested binders of local variables or of local type
variables of a module, and one over the list of the outer and then that of the inner; and two
nested scopes of different fields, and the same two the other way round. -/
theorem nested_scopes :
    (∀ (outer inner : Scope) (body : CheckProgram),
      (CheckCommand.wrap (.scope outer) body).run = around [outer] body.run ∧
      (CheckCommand.wrap (.scope outer) (.ofList [.wrap (.scope inner) body])).run =
        around [outer, inner] body.run) ∧
    (∀ b₁ b₂ b, Overridden b₁ b₂ b → Interchangeable [.names b₁, .names b₂] [.names b]) ∧
    (∀ b₁ b₂ b, Overridden b₁ b₂ b → Interchangeable [.types b₁, .types b₂] [.types b]) ∧
    (∀ d₁ d₂, Interchangeable [.dictionaries d₁, .dictionaries d₂] [.dictionaries (d₂ ++ d₁)]) ∧
    (∀ module l₁ l₂, Interchangeable [.localVariables module l₁, .localVariables module l₂]
      [.localVariables module (l₁ ++ l₂)]) ∧
    (∀ module l₁ l₂, Interchangeable [.localTypeVariables module l₁, .localTypeVariables module l₂]
      [.localTypeVariables module (l₁ ++ l₂)]) ∧
    ∀ added added' : Scope, added.field ≠ added'.field →
      Interchangeable [added, added'] [added', added] := by
  refine ⟨?programs, ?names, ?types, ?dictionaries, ?localVariables, ?localTypeVariables, ?fields⟩
  case programs =>
    intro outer inner body
    exact ⟨rfl, run_nested outer inner body⟩
  case names =>
    intro b₁ b₂ b h
    refine interchangeable_of (fun e => ?_) (by simp [field])
    exact congrArg (fun names => { e with names }) (h.insertMany_eq e.names)
  case types =>
    intro b₁ b₂ b h
    refine interchangeable_of (fun e => ?_) (by simp [field])
    exact congrArg (fun types => { e with types }) (h.insertMany_eq e.types)
  case dictionaries =>
    intro d₁ d₂
    refine interchangeable_of (fun e => ?_) (by simp [field])
    -- unlike in a table, what comes later stands in front
    have hadded := List.append_assoc d₂ d₁ e.dictionaries
    exact congrArg (fun dictionaries => { e with dictionaries }) hadded.symm
  case localVariables =>
    intro module l₁ l₂
    refine interchangeable_of (fun e => ?_) (by simp [field])
    have hbound : Overridden (localNames module l₁) (localNames module l₂)
        (localNames module (l₁ ++ l₂)) := overridden_map _ l₁ l₂
    exact congrArg (fun names => { e with names }) (hbound.insertMany_eq e.names)
  case localTypeVariables =>
    intro module l₁ l₂
    refine interchangeable_of (fun e => ?_) (by simp [field])
    have hbound : Overridden (localTypes module l₁) (localTypes module l₂)
        (localTypes module (l₁ ++ l₂)) := overridden_map _ l₁ l₂
    exact congrArg (fun types => { e with types }) (hbound.insertMany_eq e.types)
  case fields =>
    intro added added' h
    refine interchangeable_of (extend_comm h) (fun f => ?_)
    simp [or_comm]

/-- A session knows a name already. One entry of the outer scope and two of the inner hide it.
The body asks for it and takes another environment, with a name of its own, and may fail
then. The same in a single scope, and in scopes of different fields. Behind the scopes the
session has the names back that it had in front of them, and otherwise what the body took;
if the body has failed, it has the names of the body. -/
theorem nested_scopes_overriding :
    let key (name : String) : FullName := ⟨⟨["M"]⟩, name⟩
    let entry (type : String) : NameEntry := ⟨.var type, .declared⟩
    let before : Environment :=
      { Environment.empty with
        names := (∅ : Table NameEntry).insertMany [(key "x", entry "e"), (key "z", entry "f")] }
    let taken : Environment :=
      { Environment.primitive with names := (∅ : Table NameEntry).insert (key "w") (entry "g") }
    let outer := [(key "x", entry "a"), (key "y", entry "b")]
    let inner := [(key "x", entry "c"), (key "x", entry "d")]
    let both := [(key "y", entry "b"), (key "x", entry "d")]
    let body (last : CheckAction) := CheckProgram.ofList [
      .act (.typeOf ⟨["M"]⟩ ⟨none, "x"⟩), .act (.putEnvironment (.given taken)), .act last]
    let nested (outer inner : Scope) (last : CheckAction) :=
      (CheckCommand.wrap (.scope outer) (.ofList [.wrap (.scope inner) (body last)])).run
        (.start before ∅)
    let single (last : CheckAction) :=
      (CheckCommand.wrap (.scope (.names both)) (body last)).run (.start before ∅)
    Overridden outer inner both ∧
      (∀ last, (nested (.names outer) (.names inner) last).outcome = (single last).outcome) ∧
      (∀ last, (nested (.names outer) (.dictionaries []) last).outcome =
        (nested (.dictionaries []) (.names outer) last).outcome) ∧
      (single .freshDictionary).trace.map Event.stage = [.entered, .finished (.type (.var "d")),
        .finished .nothing, .finished (.dictionaryName 0), .finished .nothing] ∧
      (single .freshDictionary).outcome =
        .finished ⟨⟨{ taken with names := before.names }, 0, 1, none⟩, ∅⟩ ∧
      (single (.fail (.single "no" none))).outcome =
        .failed (.single "no" none) ⟨.start taken, ∅⟩ ∧
      taken.names ≠ before.names := by
  intro key entry before taken outer inner both body nested single
  have hboth : Overridden outer inner both := by
    intro name
    simp only [outer, inner, both, List.reverse_cons, List.reverse_nil, List.nil_append,
      List.cons_append, List.lookup_cons, List.lookup_nil]
    cases name == key "x" <;> cases name == key "y" <;> rfl
  obtain ⟨hprograms, hnames, -, -, -, -, hfields⟩ := nested_scopes
  refine ⟨hboth, fun last => ?_, fun last => ?_, by decide, by decide, by decide, by decide⟩
  · obtain ⟨houtcome, -⟩ := hnames outer inner both hboth (body last).run (.start before ∅)
    obtain ⟨-, hnested⟩ := hprograms (.names outer) (.names inner) (body last)
    simp only [nested, single, hnested]
    exact houtcome
  · obtain ⟨houtcome, -⟩ := hfields (.names outer) (.dictionaries []) (by decide)
      (body last).run (.start before ∅)
    simp only [nested, hprograms]
    exact houtcome

end Scope

end TypingSession
