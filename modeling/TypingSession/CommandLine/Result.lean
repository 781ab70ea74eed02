import TypingSession.CommandLine.Invocation
import TypingSession.Fixture.Parser
import TypingSession.Session.Series

/-!
# TypingSession — results of the program

What the program writes, and the status it exits with. To render a fixture is to
fail a session with it: the report goes to standard output and the status is 1.
A fixture that cannot be had, and a command line that is not understood, leave
standard output empty and exit with 2.
-/

namespace TypingSession

/-- The texts about the command line itself. Whatever reads the command line brings them along,
and no status depends on what they say. -/
structure CommandTexts where
  /-- How the program is used, or a command of it. -/
  usage : Option Subcommand → String
  /-- Why a command line is not understood. -/
  refusal : UsageError → String
  /-- The completions for a shell. -/
  completions : Shell → String

/-- What an invocation comes to. -/
structure ProgramResult where
  /-- The status. -/
  exitCode : Nat
  /-- What is written on standard output. -/
  stdout : String
  /-- What is written on standard error. -/
  stderr : String
deriving DecidableEq, Repr

namespace ProgramResult

/-- The name of the program. -/
def programName : String := "tycheck"

/-- The name of the program, or of a command of it. -/
def displayName : Option Subcommand → String
  | none => programName
  | some c => programName ++ "-" ++ c.name

/-- The result of a session that does nothing but fail. -/
def ofFailure (verbose : Bool) (stack : ErrorStack) : ProgramResult :=
  let request : Request := ⟨verbose, .ofList [.act (.fail stack)]⟩
  match request.run? .primitive ∅ with
  | some (⟨_, .report text⟩, _) => ⟨1, text ++ "\n", ""⟩
  | some (⟨_, .environment _⟩, _) | none => ⟨0, "", ""⟩

@[simp] theorem ofFailure_eq (verbose : Bool) (stack : ErrorStack) :
    ofFailure verbose stack = ⟨1, stack.report verbose ++ "\n", ""⟩ := rfl

/-- The result of rendering a fixture, given what its file holds. -/
def ofFixture (path : String) (verbose : Bool) (contents : Except ReadError ByteArray) :
    ProgramResult :=
  match Fixture.parseFile path contents with
  | .ok stack => ofFailure verbose stack
  | .error e => ⟨2, "", "Error: " ++ e.message ++ "\n"⟩

/-- The result of what a command line was read as, given a way to read files. -/
def ofReading (texts : CommandTexts) (read : String → Except ReadError ByteArray) :
    Except UsageError Invocation → ProgramResult
  | .ok (.render path verbose) => ofFixture path verbose (read path)
  | .ok (.completions shell) => ⟨0, texts.completions shell, ""⟩
  | .ok (.version command) => ⟨0, displayName command ++ " 0.1.0\n", ""⟩
  | .ok (.help command) => ⟨0, texts.usage command, ""⟩
  | .error e => ⟨2, "", texts.refusal e⟩

/-- Short texts, for a program that comes with no others. -/
def plainTexts : CommandTexts where
  usage command := "Usage: " ++ displayName command ++ "\n"
  refusal e := "error: " ++ e.message ++ "\n"
  completions _ := programName ++ " <render|completions|help>\n"

/-- The result of a list of arguments, given a way to read files. -/
def ofArguments (read : String → Except ReadError ByteArray) (arguments : List String) :
    ProgramResult :=
  ofReading plainTexts read (Invocation.ofArguments arguments)

end ProgramResult

end TypingSession
