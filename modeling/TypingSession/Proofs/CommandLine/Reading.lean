import TypingSession.CommandLine.Invocation

/-!
# TypingSession — reading the command line

A list of arguments is read from the left, and what it asks for is settled by the first
argument that is out of place or that asks for help or the version. What asks for a file to be
rendered, or for completions, can be said without reading from the left: the words behind the
name of the command, and the options, are just those that are wanted, in any order, with the
mark `--` anywhere among them.

* `Argument.map_spelled_ofList` — the forms of arguments tell how they were written.
* `Invocation.ofArguments_eq_render_iff`, `ofArguments_eq_completions_iff` — what asks for a
  file to be rendered, and for completions.
* `Invocation.exists_arguments_iff` — what can be asked for at all.
* `Invocation.subject_of_ofArguments` — a refusal is about something that was given.
-/

namespace TypingSession

/-! ## Arguments -/

namespace Argument

/-- An argument as it was written. -/
def spelled : Argument → List Char
  | wordsOnly => ['-', '-']
  | long name none => '-' :: '-' :: name
  | long name (some value) => '-' :: '-' :: (name ++ '=' :: value)
  | short c more => '-' :: c :: more
  | word s => s.toList

/-- The word that an argument is, if it is one. -/
def word? : Argument → Option String
  | word s => some s
  | wordsOnly | long _ _ | short _ _ => none

/-- Whether an argument consists of options. -/
def isOption : Argument → Bool
  | long _ _ | short _ _ => true
  | wordsOnly | word _ => false

/-- The words among some arguments. -/
def words (arguments : List Argument) : List String := arguments.filterMap word?

/-- The options among some arguments. -/
def options (arguments : List Argument) : List Argument := arguments.filter isOption

/-- A name ends in front of the first equals sign, behind which the value begins. -/
theorem spelled_long (rest : List Char) :
    (long (rest.takeWhile (· != '=')) <|
      match rest.dropWhile (· != '=') with
      | [] => none
      | _ :: value => some value).spelled = '-' :: '-' :: rest := by
  have hrest := List.takeWhile_append_dropWhile (p := (· != '=')) (l := rest)
  cases hdrop : rest.dropWhile (· != '=') with
  | nil =>
    rw [hdrop, List.append_nil] at hrest
    simp only [spelled, hrest]
  | cons c value =>
    have hc : c = '=' := by
      have hhead := List.head?_dropWhile_not (· != '=') rest
      rw [hdrop] at hhead
      simpa using hhead
    rw [hdrop, hc] at hrest
    simp only [spelled, hrest]

theorem spelled_ofString (s : String) : (ofString s).spelled = s.toList := by
  unfold ofString
  split
  next h => exact h.symm
  next rest _ h =>
    rw [h]
    exact spelled_long rest
  next h => exact h.symm
  next => rfl

/-- No argument is lost, and none is changed, when arguments are taken by their forms. -/
theorem map_spelled_ofList (l : List String) : (ofList l).map spelled = l.map String.toList := by
  induction l with
  | nil => rfl
  | cons s rest ih =>
    have hs := spelled_ofString s
    unfold ofList
    split
    next h =>
      -- the rest are words
      rw [h] at hs
      rw [List.map_cons, List.map_cons, hs, List.map_map]
      rfl
    next => rw [List.map_cons, List.map_cons, hs, ih]

theorem ofString_eq_word {s w : String} (h : ofString s = word w) : w = s := by
  have hs := spelled_ofString s
  rw [h] at hs
  exact String.toList_inj.mp hs

end Argument

/-! ## What is asked for -/

theorem Subcommand.ofName?_eq_some_iff {s : String} {c : Subcommand} :
    ofName? s = some c ↔ s = c.name := by
  unfold ofName?
  split <;> cases c <;> simp_all [name]

/-- The name of a shell. -/
def Shell.name : Shell → String
  | bash => "bash"
  | elvish => "elvish"
  | fish => "fish"
  | powershell => "powershell"
  | zsh => "zsh"

theorem Shell.ofName?_eq_some_iff {s : String} {shell : Shell} :
    ofName? s = some shell ↔ s = shell.name := by
  unfold ofName?
  split <;> cases shell <;> simp_all [name]

namespace UsageError

/-- What is quoted from the command line to say why it is not understood. -/
def subject? : UsageError → Option String
  | missingCommand | missingWord _ => none
  | unknownCommand w | unknownOption w | unexpectedValue w | repeatedOption w
  | unexpectedWord w | invalidWord w _ => some w

theorem exists_message_eq {e : UsageError} {w : String} (h : e.subject? = some w) :
    ∃ before after, e.message = before ++ w ++ after := by
  unfold message
  cases e with
  | missingCommand | missingWord _ => cases h
  | unknownCommand w | unknownOption w | unexpectedValue w | repeatedOption w
  | unexpectedWord w =>
    cases h
    exact ⟨_, _, rfl⟩
  | invalidWord w placeholder =>
    cases h
    exact ⟨"'", "' is not possible for the argument <" ++ placeholder ++ ">", by
      simp only [String.append_assoc]⟩

/-- What is quoted is how one of the arguments begins. -/
def Concerns (e : UsageError) (arguments : List (List Char)) : Prop :=
  ∀ w, e.subject? = some w → ∃ a ∈ arguments, w.toList <+: a

theorem concerns_of_mem {e : UsageError} {w : String} {a : List Char}
    {arguments : List (List Char)} (he : e.subject? = some w) (ha : a ∈ arguments)
    (hw : w.toList <+: a) : e.Concerns arguments := by
  intro w' hw'
  obtain rfl : w = w' := Option.some.inj (he.symm.trans hw')
  exact ⟨a, ha, hw⟩

theorem concerns_of_given {e : UsageError} {w : String} {l : List String}
    (he : e.subject? = some w) (hw : w ∈ l) : e.Concerns (l.map String.toList) :=
  concerns_of_mem he (List.mem_map.mpr ⟨w, hw, rfl⟩) (List.prefix_refl _)

theorem concerns_of_none {e : UsageError} (he : e.subject? = none) (arguments : List (List Char)) :
    e.Concerns arguments := by
  intro w hw
  rw [he] at hw
  cases hw

theorem Concerns.mono {e : UsageError} {l m : List (List Char)} (h : e.Concerns l) (hsub : l ⊆ m) :
    e.Concerns m := by
  intro w hw
  obtain ⟨a, ha, hprefix⟩ := h w hw
  exact ⟨a, hsub ha, hprefix⟩

end UsageError

namespace Invocation

open Argument (words options spelled)

/-- What can come of reading some arguments of a command: an invocation of its own, help or the
version as seen from it, or a refusal that is about one of the arguments. -/
def Settled (command : Option Subcommand) (own : Invocation → Prop)
    (arguments : List (List Char)) : Except UsageError Invocation → Prop
  | .ok i => own i ∨ i = help command ∨ i = version command
  | .error e => e.Concerns arguments

theorem Settled.mono {command : Option Subcommand} {own : Invocation → Prop}
    {l m : List (List Char)} {r : Except UsageError Invocation} (h : Settled command own l r)
    (hsub : l ⊆ m) : Settled command own m r := by
  cases r with
  | ok i => exact h
  | error e => exact UsageError.Concerns.mono h hsub

theorem ofCommonOption_settled (command : Option Subcommand) (own : Invocation → Prop)
    (a : Argument) : Settled command own [a.spelled] (ofCommonOption command a) := by
  have hself {w : String} {e : UsageError} (he : e.subject? = some w)
      (hw : w.toList <+: a.spelled) : Settled command own [a.spelled] (.error e) :=
    UsageError.concerns_of_mem he List.mem_cons_self hw
  unfold ofCommonOption
  split
  next => exact Or.inr (Or.inl rfl)
  next => exact Or.inr (Or.inl rfl)
  next => exact Or.inr (Or.inr rfl)
  next => exact Or.inr (Or.inr rfl)
  next name value _ _ =>
    have hname : ("--" ++ String.ofList name).toList <+: (Argument.long name value).spelled := by
      cases value with
      | none => exact ⟨[], by simp [spelled]⟩
      | some v => exact ⟨'=' :: v, by simp [spelled]⟩
    dsimp only
    split
    · exact hself rfl hname
    · exact hself rfl hname
  next c more _ _ =>
    refine hself rfl ⟨more, ?_⟩
    simp [spelled]
  next => exact hself rfl (List.prefix_refl _)
  next => exact hself rfl (List.prefix_refl _)

section Settled

variable {command : Option Subcommand} {own : Invocation → Prop} {a : Argument}
  {rest : List Argument}

/-- An option that is not one of the command's own settles what is asked for. -/
theorem settled_of_commonOption :
    Settled command own ((a :: rest).map spelled) (ofCommonOption command a) :=
  (ofCommonOption_settled command own a).mono (List.cons_subset_cons _ (List.nil_subset _))

theorem settled_of_error {e : UsageError} {w : String} (he : e.subject? = some w)
    (hw : w.toList <+: a.spelled) : Settled command own ((a :: rest).map spelled) (.error e) :=
  UsageError.concerns_of_mem he List.mem_cons_self hw

theorem settled_of_rest {r : Except UsageError Invocation}
    (h : Settled command own (rest.map spelled) r) :
    Settled command own ((a :: rest).map spelled) r :=
  h.mono (List.subset_cons_self _ _)

end Settled

/-- The invocations that a command has of its own. -/
def Own : Subcommand → Invocation → Prop
  | .render, render path _ => path ≠ ""
  | .completions, completions _ => True
  | .help, help (some _) => True
  | _, _ => False

theorem ofRenderArguments_settled {path : Option String} (hpath : path ≠ some "") (verbose : Bool)
    (forms : List Argument) :
    Settled (some .render) (Own .render) (forms.map spelled)
      (ofRenderArguments path verbose forms) := by
  induction forms generalizing path verbose with
  | nil =>
    cases path with
    | none => exact UsageError.concerns_of_none rfl _
    | some path => exact Or.inl fun h => hpath (h ▸ rfl)
  | cons a rest ih =>
    cases a with
    | wordsOnly => exact settled_of_rest (ih hpath verbose)
    | word s =>
      cases path with
      | some path => exact settled_of_error rfl (List.prefix_refl _)
      | none =>
        unfold ofRenderArguments
        by_cases hs : s.isEmpty
        · rw [if_pos hs]
          exact settled_of_error rfl (List.prefix_refl _)
        · rw [if_neg hs]
          have hne : some s ≠ some "" := by
            rintro ⟨⟩
            exact hs rfl
          exact settled_of_rest (ih hne verbose)
    | long name value =>
      unfold ofRenderArguments
      by_cases hname : name = "verbose-errors".toList
      · rw [if_pos hname]
        -- the option has no value, and is given once
        subst hname
        cases value with
        | some v => exact settled_of_error rfl ⟨'=' :: v, rfl⟩
        | none =>
          cases verbose with
          | true => exact settled_of_error rfl (List.prefix_refl _)
          | false => exact settled_of_rest (ih hpath true)
      · rw [if_neg hname]
        exact settled_of_commonOption
    | short c more => exact settled_of_commonOption

theorem ofCompletionsArguments_settled (shell : Option Shell) (forms : List Argument) :
    Settled (some .completions) (Own .completions) (forms.map spelled)
      (ofCompletionsArguments shell forms) := by
  induction forms generalizing shell with
  | nil =>
    cases shell with
    | none => exact UsageError.concerns_of_none rfl _
    | some shell => exact Or.inl trivial
  | cons a rest ih =>
    cases a with
    | wordsOnly => exact settled_of_rest (ih shell)
    | word s =>
      unfold ofCompletionsArguments
      split
      next => exact settled_of_error rfl (List.prefix_refl _)
      next shell _ => exact settled_of_rest (ih (some shell))
      next => exact settled_of_error rfl (List.prefix_refl _)
    | long name value | short c more => exact settled_of_commonOption

theorem ofHelpArguments_settled (l : List String) :
    Settled none (Own .help) (l.map String.toList) (ofHelpArguments l) := by
  unfold ofHelpArguments
  split
  next => exact Or.inr (Or.inl rfl)
  next name rest =>
    split
    next => exact UsageError.concerns_of_given rfl List.mem_cons_self
    next => exact Or.inl trivial
    next => exact UsageError.concerns_of_given rfl (List.mem_cons_of_mem _ List.mem_cons_self)

/-- What the arguments of a command ask for. -/
def ofSubcommand : Subcommand → List String → Except UsageError Invocation
  | .render, rest => ofRenderArguments none false (Argument.ofList rest)
  | .completions, rest => ofCompletionsArguments none (Argument.ofList rest)
  | .help, rest => ofHelpArguments rest

/-- The command as seen from which help is given and the version is told, among the arguments
of a command. The `help` command takes no options. -/
def seenFrom : Subcommand → Option Subcommand
  | .render => some .render
  | .completions => some .completions
  | .help => none

theorem ofSubcommand_settled (c : Subcommand) (rest : List String) :
    Settled (seenFrom c) (Own c) (rest.map String.toList) (ofSubcommand c rest) := by
  have hforms := Argument.map_spelled_ofList rest
  cases c with
  | render =>
    rw [← hforms]
    exact ofRenderArguments_settled (by simp) false _
  | completions =>
    rw [← hforms]
    exact ofCompletionsArguments_settled none _
  | help => exact ofHelpArguments_settled rest

theorem ofArguments_name (c : Subcommand) (rest : List String) :
    ofArguments (c.name :: rest) = ofSubcommand c rest := by
  cases c <;> rfl

/-- A list of arguments begins with the name of a command, and the rest are for that command to
read; or its first arguments settle what is asked for. -/
theorem ofArguments_cases (l : List String) :
    (∃ c rest, l = c.name :: rest ∧ ofArguments l = ofSubcommand c rest) ∨
      Settled none (fun _ => False) (l.map String.toList) (ofArguments l) := by
  cases l with
  | nil => exact Or.inr (UsageError.concerns_of_none rfl _)
  | cons s rest =>
    have hs := Argument.spelled_ofString s
    simp only [ofArguments]
    split
    next name h =>
      obtain rfl := Argument.ofString_eq_word h
      cases hname : Subcommand.ofName? name with
      | none => exact Or.inr (UsageError.concerns_of_given rfl List.mem_cons_self)
      | some c =>
        obtain rfl := Subcommand.ofName?_eq_some_iff.mp hname
        refine Or.inl ⟨c, rest, rfl, ?_⟩
        cases c <;> rfl
    next =>
      refine Or.inr ?_
      split
      next => exact UsageError.concerns_of_none rfl _
      next =>
        exact UsageError.concerns_of_given rfl (List.mem_cons_of_mem _ List.mem_cons_self)
    next =>
      refine Or.inr ((ofCommonOption_settled none _ _).mono ?_)
      rw [hs]
      exact List.cons_subset_cons _ (List.nil_subset _)

/-! ## What can be asked for -/

/-- What can be asked for: a file has a path, and the `help` command takes names of commands and
no options. -/
def Askable : Invocation → Prop
  | render path _ => path ≠ ""
  | version (some .help) => False
  | completions _ | version _ | help _ => True

/-- What is read is something that can be asked for, or a refusal that is about one of the
arguments. -/
def Sound (l : List (List Char)) : Except UsageError Invocation → Prop
  | .ok i => i.Askable
  | .error e => e.Concerns l

theorem askable_of_own {c : Subcommand} {i : Invocation} (h : Own c i) : i.Askable := by
  cases c <;> cases i
  case render.render => exact h
  case completions.completions | help.help => trivial
  all_goals exact absurd h id

theorem Settled.sound {command : Option Subcommand} {own : Invocation → Prop}
    {l : List (List Char)} {r : Except UsageError Invocation} (h : Settled command own l r)
    (hown : ∀ i, own i → i.Askable) (hcommand : (version command).Askable) : Sound l r := by
  cases r with
  | error e => exact h
  | ok i =>
    rcases h with h | rfl | rfl
    · exact hown i h
    · trivial
    · exact hcommand

theorem ofArguments_sound (l : List String) : Sound (l.map String.toList) (ofArguments l) := by
  rcases ofArguments_cases l with ⟨c, rest, rfl, h⟩ | h
  · have hsettled := (ofSubcommand_settled c rest).mono
      (List.subset_cons_self c.name.toList (rest.map String.toList))
    rw [h]
    exact hsettled.sound (fun _ => askable_of_own) (by cases c <;> trivial)
  · exact h.sound (fun _ hfalse => absurd hfalse id) trivial

/-- A refusal that is about something says so, and it is how one of the arguments begins. -/
theorem subject_of_ofArguments {l : List String} {e : UsageError} {w : String}
    (h : ofArguments l = .error e) (hw : e.subject? = some w) :
    (∃ before after, e.message = before ++ w ++ after) ∧ ∃ s ∈ l, w.toList <+: s.toList := by
  have hsound := ofArguments_sound l
  rw [h] at hsound
  obtain ⟨a, ha, hprefix⟩ := hsound w hw
  obtain ⟨s, hs, rfl⟩ := List.mem_map.mp ha
  exact ⟨e.exists_message_eq hw, s, hs, hprefix⟩

/-- A list of arguments that asks for something. -/
def arguments : Invocation → List String
  | render path verbose =>
    "render" :: (if verbose then ["--verbose-errors"] else []) ++ ["--", path]
  | completions shell => ["completions", shell.name]
  | version none => ["--version"]
  | version (some command) => [command.name, "--version"]
  | help none => ["help"]
  | help (some command) => ["help", command.name]

theorem ofArguments_arguments {i : Invocation} (h : i.Askable) : ofArguments i.arguments = .ok i := by
  cases i with
  | render path verbose =>
    have hempty : path.isEmpty = false := by
      cases hp : path.isEmpty with
      | false => rfl
      | true => exact absurd (String.isEmpty_iff.mp hp) h
    -- behind the mark the path is a word, whatever it looks like
    have hread (given : Bool) : ofRenderArguments none given [.wordsOnly, .word path] =
        .ok (render path given) := by
      simp [ofRenderArguments, hempty]
    cases verbose with
    | false => exact hread false
    | true => exact hread true
  | completions shell => cases shell <;> rfl
  | version command =>
    cases command with
    | none => rfl
    | some command =>
      cases command with
      | render | completions => rfl
      | help => exact absurd h id
  | help command =>
    cases command with
    | none => rfl
    | some command => cases command <;> rfl

/-- Everything can be asked for but a file without a path, and the version as seen from the
`help` command. -/
theorem exists_arguments_iff {i : Invocation} :
    (∃ l, ofArguments l = .ok i) ↔ i.Askable := by
  constructor
  · rintro ⟨l, hl⟩
    have hsound := ofArguments_sound l
    rw [hl] at hsound
    exact hsound
  · intro h
    exact ⟨i.arguments, ofArguments_arguments h⟩

/-! ## What asks for a file, and what for completions -/

theorem ofCommonOption_eq_ok {command : Option Subcommand} {a : Argument} {i : Invocation}
    (h : ofCommonOption command a = .ok i) : i = help command ∨ i = version command := by
  have hsettled := ofCommonOption_settled command (fun _ => False) a
  rw [h] at hsettled
  exact hsettled.resolve_left id

/-- The option of a `render` command. -/
def verboseOption : Argument := .long "verbose-errors".toList none

/-- The options of a `render` command that asks for a report in full, or in brief. -/
def renderOptions (verbose : Bool) : List Argument := if verbose then [verboseOption] else []

theorem renderOptions_inj {verbose verbose' : Bool}
    (h : renderOptions verbose = renderOptions verbose') : verbose = verbose' := by
  cases verbose <;> cases verbose' <;> simp_all [renderOptions]

/-- An option that does not belong to the command is not among those that are wanted. -/
theorem options_cons_ne {a : Argument} (ha : a.isOption = true) (hne : a ≠ verboseOption)
    (rest : List Argument) (full verbose : Bool) :
    renderOptions full ++ options (a :: rest) ≠ renderOptions verbose := by
  intro h
  have hmem : a ∈ renderOptions verbose := by
    rw [← h, options, List.filter_cons_of_pos ha]
    exact List.mem_append_right _ List.mem_cons_self
  cases verbose with
  | true => exact hne (List.mem_singleton.mp hmem)
  | false => exact absurd hmem List.not_mem_nil

/-- What has been read of the path and of the option counts together with what is still to
come. -/
theorem ofRenderArguments_eq_render_iff {forms : List Argument} {given : Option String}
    (hgiven : given ≠ some "") {full : Bool} {path : String} {verbose : Bool} :
    ofRenderArguments given full forms = .ok (render path verbose) ↔
      given.toList ++ words forms = [path] ∧
        renderOptions full ++ options forms = renderOptions verbose ∧ path ≠ "" := by
  induction forms generalizing given full with
  | nil =>
    cases given with
    | none => simp [ofRenderArguments, words]
    | some s =>
      constructor
      · intro h
        obtain ⟨rfl, rfl⟩ := render.inj (Except.ok.inj h)
        exact ⟨rfl, List.append_nil _, fun h => hgiven (h ▸ rfl)⟩
      · rintro ⟨hwords, hoptions, -⟩
        obtain rfl : s = path := List.head_eq_of_cons_eq hwords
        obtain rfl := renderOptions_inj ((List.append_nil _).symm.trans hoptions)
        rfl
  | cons a rest ih =>
    cases a with
    | wordsOnly => exact ih hgiven
    | word s =>
      cases given with
      | some q => simp [ofRenderArguments, words, Argument.word?]
      | none =>
        by_cases hs : s = ""
        · -- a path is not empty
          subst hs
          refine iff_of_false (by simp [ofRenderArguments]) ?_
          rintro ⟨hwords, -, hpath⟩
          exact hpath (List.head_eq_of_cons_eq hwords).symm
        · have hnext : ofRenderArguments none full (.word s :: rest) =
              ofRenderArguments (some s) full rest := by
            simp [ofRenderArguments, hs]
          rw [hnext]
          exact ih (by simpa using hs)
    | long name value =>
      by_cases hown : Argument.long name value = verboseOption
      · rw [hown]
        cases full with
        | true =>
          -- the option is given twice
          refine iff_of_false (by simp [ofRenderArguments, verboseOption]) ?_
          rintro ⟨-, hoptions, -⟩
          cases verbose <;> cases hoptions
        | false => exact ih hgiven
      · refine iff_of_false (fun h => ?_) fun h => options_cons_ne rfl hown rest _ _ h.2.1
        unfold ofRenderArguments at h
        split at h
        next hname =>
          -- it has a value that it does not take
          subst hname
          cases value with
          | none => exact hown rfl
          | some v => cases h
        next => rcases ofCommonOption_eq_ok h with h | h <;> cases h
    | short c more =>
      refine iff_of_false (fun h => ?_) fun h =>
        options_cons_ne rfl (by simp [verboseOption]) rest _ _ h.2.1
      rcases ofCommonOption_eq_ok h with h | h <;> cases h

theorem ofCompletionsArguments_eq_completions_iff {forms : List Argument} {given : Option Shell}
    {shell : Shell} :
    ofCompletionsArguments given forms = .ok (completions shell) ↔
      given.toList.map Shell.name ++ words forms = [shell.name] ∧ options forms = [] := by
  have hname {s s' : Shell} : s.name = s'.name ↔ s = s' := by
    rw [← Shell.ofName?_eq_some_iff, Shell.ofName?_eq_some_iff.mpr rfl, Option.some.injEq]
  induction forms generalizing given with
  | nil =>
    cases given with
    | none => simp [ofCompletionsArguments, words]
    | some s => simp [ofCompletionsArguments, words, options, hname]
  | cons a rest ih =>
    cases a with
    | wordsOnly => exact ih
    | word s =>
      cases given with
      | some s' => simp [ofCompletionsArguments, words, Argument.word?]
      | none =>
        cases hs : Shell.ofName? s with
        | some s' =>
          obtain rfl := Shell.ofName?_eq_some_iff.mp hs
          have hnext : ofCompletionsArguments none (.word s'.name :: rest) =
              ofCompletionsArguments (some s') rest := by
            simp [ofCompletionsArguments, hs]
          rw [hnext]
          exact ih
        | none =>
          refine iff_of_false (by simp [ofCompletionsArguments, hs]) ?_
          rintro ⟨hwords, -⟩
          rw [List.head_eq_of_cons_eq hwords, Shell.ofName?_eq_some_iff.mpr rfl] at hs
          cases hs
    | long name value | short c more =>
      refine iff_of_false (fun h => ?_) fun h => absurd h.2 (List.cons_ne_nil _ _)
      rcases ofCommonOption_eq_ok h with h | h <;> cases h

/-- Help and the version apart, what is asked for is asked of a command. -/
theorem ofArguments_eq_ok_iff {l : List String} {i : Invocation} (hhelp : i ≠ help none)
    (hversion : i ≠ version none) :
    ofArguments l = .ok i ↔ ∃ c rest, l = c.name :: rest ∧ ofSubcommand c rest = .ok i := by
  constructor
  · intro h
    rcases ofArguments_cases l with ⟨c, rest, hl, hc⟩ | hsettled
    · exact ⟨c, rest, hl, hc.symm.trans h⟩
    · rw [h] at hsettled
      rcases hsettled with h | h | h
      · exact absurd h id
      · exact absurd h hhelp
      · exact absurd h hversion
  · rintro ⟨c, rest, rfl, h⟩
    exact (ofArguments_name c rest).trans h

/-- Help and the version apart, what the arguments of a command ask for is one of its own
invocations. -/
theorem own_of_ofSubcommand {c : Subcommand} {rest : List String} {i : Invocation}
    (h : ofSubcommand c rest = .ok i) (hhelp : ∀ command, i ≠ help command)
    (hversion : ∀ command, i ≠ version command) : Own c i := by
  have hsettled := ofSubcommand_settled c rest
  rw [h] at hsettled
  rcases hsettled with hown | hi | hi
  · exact hown
  · exact absurd hi (hhelp _)
  · exact absurd hi (hversion _)

/-- What asks for a file to be rendered: behind the name of the command, the words are just its
path, which is not empty, and the options are just the one for a report in full, or none. -/
theorem ofArguments_eq_render_iff {l : List String} {path : String} {verbose : Bool} :
    ofArguments l = .ok (render path verbose) ↔
      ∃ rest, l = "render" :: rest ∧ words (Argument.ofList rest) = [path] ∧
        options (Argument.ofList rest) = renderOptions verbose ∧ path ≠ "" := by
  rw [ofArguments_eq_ok_iff (by simp) (by simp)]
  constructor
  · rintro ⟨c, rest, rfl, h⟩
    have hown := own_of_ofSubcommand h (by simp) (by simp)
    obtain rfl : c = .render := by
      cases c with
      | render => rfl
      | completions | help => exact absurd hown id
    exact ⟨rest, rfl, (ofRenderArguments_eq_render_iff (by simp)).mp h⟩
  · rintro ⟨rest, rfl, h⟩
    exact ⟨.render, rest, rfl, (ofRenderArguments_eq_render_iff (by simp)).mpr h⟩

/-- The option may stand behind the path, and the mark may stand in front of nothing. -/
example : ofArguments ["render", "f", "--verbose-errors", "--"] = .ok (render "f" true) := by
  rfl

/-- What asks for completions: behind the name of the command, the words are just the name of a
shell, and there are no options. -/
theorem ofArguments_eq_completions_iff {l : List String} {shell : Shell} :
    ofArguments l = .ok (completions shell) ↔
      ∃ rest, l = "completions" :: rest ∧ words (Argument.ofList rest) = [shell.name] ∧
        options (Argument.ofList rest) = [] := by
  rw [ofArguments_eq_ok_iff (by simp) (by simp)]
  constructor
  · rintro ⟨c, rest, rfl, h⟩
    have hown := own_of_ofSubcommand h (by simp) (by simp)
    obtain rfl : c = .completions := by
      cases c with
      | completions => rfl
      | render | help => exact absurd hown id
    exact ⟨rest, rfl, ofCompletionsArguments_eq_completions_iff.mp h⟩
  · rintro ⟨rest, rfl, h⟩
    exact ⟨.completions, rest, rfl, ofCompletionsArguments_eq_completions_iff.mpr h⟩

end Invocation

end TypingSession
