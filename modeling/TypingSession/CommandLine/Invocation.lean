import TypingSession.CommandLine.Argument

/-!
# TypingSession — invocations

What the command line asks for. The first argument that cannot be understood
decides: an option unknown at its place, an option given twice, a word that is
not expected or not among the possible ones. A request for help or for the
version holds as soon as it is read, whatever follows.
-/

namespace TypingSession

/-- A shell for which completions exist. -/
inductive Shell where
  /-- Bourne again shell. -/
  | bash
  /-- Elvish. -/
  | elvish
  /-- Friendly interactive shell. -/
  | fish
  /-- Powershell. -/
  | powershell
  /-- Z shell. -/
  | zsh
deriving DecidableEq, Repr

/-- The shell of a name. -/
def Shell.ofName? : String → Option Shell
  | "bash" => some .bash
  | "elvish" => some .elvish
  | "fish" => some .fish
  | "powershell" => some .powershell
  | "zsh" => some .zsh
  | _ => none

/-- A command of the program. -/
inductive Subcommand where
  /-- Report the failure that a file describes. -/
  | render
  /-- Write the completions for a shell. -/
  | completions
  /-- Explain a command. -/
  | help
deriving DecidableEq, Repr

namespace Subcommand

/-- The command of a name. -/
def ofName? : String → Option Subcommand
  | "render" => some render
  | "completions" => some completions
  | "help" => some help
  | _ => none

/-- The name of a command. -/
def name : Subcommand → String
  | render => "render"
  | completions => "completions"
  | help => "help"

end Subcommand

/-- What the command line asks for. -/
inductive Invocation where
  /-- The report of the failure that a file describes. -/
  | render (path : String) (verbose : Bool)
  /-- The completions for a shell. -/
  | completions (shell : Shell)
  /-- The version, as seen from a command. -/
  | version (command : Option Subcommand)
  /-- An explanation, of a command if one is given. -/
  | help (command : Option Subcommand)
deriving DecidableEq, Repr

/-- Why the command line is not understood. -/
inductive UsageError where
  /-- No command is given. -/
  | missingCommand
  /-- There is no command of that name. -/
  | unknownCommand (name : String)
  /-- There is no such option here. -/
  | unknownOption (name : String)
  /-- The option takes no value. -/
  | unexpectedValue (option : String)
  /-- The option is given twice. -/
  | repeatedOption (option : String)
  /-- The word is one too many. -/
  | unexpectedWord (word : String)
  /-- A word is missing. -/
  | missingWord (placeholder : String)
  /-- The word is none of those that are possible. -/
  | invalidWord (word placeholder : String)
deriving DecidableEq, Repr

/-- Why the command line is not understood, as text. -/
def UsageError.message : UsageError → String
  | missingCommand => "a command is required"
  | unknownCommand name => "there is no command '" ++ name ++ "'"
  | unknownOption name => "there is no option '" ++ name ++ "' here"
  | unexpectedValue option => "the option '" ++ option ++ "' takes no value"
  | repeatedOption option => "the option '" ++ option ++ "' is given twice"
  | unexpectedWord word => "the argument '" ++ word ++ "' is not expected"
  | missingWord placeholder => "the argument <" ++ placeholder ++ "> is required"
  | invalidWord word placeholder =>
    "'" ++ word ++ "' is not possible for the argument <" ++ placeholder ++ ">"

namespace Invocation

/-- The answer to an option that every command has, or the reason why there is
no such option. -/
def ofCommonOption (command : Option Subcommand) : Argument → Except UsageError Invocation
  | .long ['h', 'e', 'l', 'p'] none | .short 'h' _ => .ok (help command)
  | .long ['v', 'e', 'r', 's', 'i', 'o', 'n'] none | .short 'V' _ => .ok (version command)
  | .long name value =>
    let option := "--" ++ String.ofList name
    if value.isSome && (option == "--help" || option == "--version") then
      .error (.unexpectedValue option)
    else .error (.unknownOption option)
  | .short c _ => .error (.unknownOption ("-" ++ c.toString))
  | .wordsOnly => .error (.unexpectedWord "--")
  | .word s => .error (.unexpectedWord s)

/-- The rest of a `render` command, of which the path and the option may have
been read. -/
def ofRenderArguments (path : Option String) (verbose : Bool) :
    List Argument → Except UsageError Invocation
  | [] =>
    match path with
    | some path => .ok (render path verbose)
    | none => .error (.missingWord "FILE")
  | .wordsOnly :: rest => ofRenderArguments path verbose rest
  | .word s :: rest =>
    match path with
    | some _ => .error (.unexpectedWord s)
    | none =>
      if s.isEmpty then .error (.invalidWord s "FILE")
      else ofRenderArguments (some s) verbose rest
  | .long name value :: rest =>
    if name = "verbose-errors".toList then
      if value.isSome then .error (.unexpectedValue "--verbose-errors")
      else if verbose then .error (.repeatedOption "--verbose-errors")
      else ofRenderArguments path true rest
    else ofCommonOption (some .render) (.long name value)
  | .short c more :: _ => ofCommonOption (some .render) (.short c more)

/-- The rest of a `completions` command, of which the shell may have been read. -/
def ofCompletionsArguments (shell : Option Shell) :
    List Argument → Except UsageError Invocation
  | [] =>
    match shell with
    | some shell => .ok (completions shell)
    | none => .error (.missingWord "SHELL")
  | .wordsOnly :: rest => ofCompletionsArguments shell rest
  | .word s :: rest =>
    match shell, Shell.ofName? s with
    | some _, _ => .error (.unexpectedWord s)
    | none, some shell => ofCompletionsArguments (some shell) rest
    | none, none => .error (.invalidWord s "SHELL")
  | a :: _ => ofCommonOption (some .completions) a

/-- The rest of a `help` command: at most one command to explain. -/
def ofHelpArguments : List String → Except UsageError Invocation
  | [] => .ok (help none)
  | name :: rest =>
    match Subcommand.ofName? name, rest with
    | none, _ => .error (.unknownCommand name)
    | some command, [] => .ok (help (some command))
    | some _, extra :: _ => .error (.unknownCommand extra)

/-- What a list of arguments asks for. -/
def ofArguments : List String → Except UsageError Invocation
  | [] => .error .missingCommand
  | s :: rest =>
    match Argument.ofString s with
    | .word name =>
      match Subcommand.ofName? name with
      | some .render => ofRenderArguments none false (Argument.ofList rest)
      | some .completions => ofCompletionsArguments none (Argument.ofList rest)
      | some .help => ofHelpArguments rest
      | none => .error (.unknownCommand name)
    | .wordsOnly =>
      match rest with
      | [] => .error .missingCommand
      | word :: _ => .error (.unexpectedWord word)
    | a => ofCommonOption none a

end Invocation

end TypingSession
