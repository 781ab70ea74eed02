import TypingSession.CommandLine.Result
import TypingSession.Fixture.Directory

/-!
# TypingSession — the program

Reads the file that the command line names, if it names one, and writes what the
command comes to.
-/

namespace TypingSession

/-- The number of a system error, which the system gives negated at times. -/
def systemErrorNumber (code : UInt32) : Nat :=
  if code < 0x80000000 then code.toNat else (0 - code).toNat

/-- Why reading a file has failed. -/
def ReadError.ofSystem (e : IO.Error) : ReadError :=
  match e with
  | .noFileOrDirectory .. => .notFound
  | .permissionDenied .. => .denied
  | .inappropriateType _ code _ =>
    if systemErrorNumber code = 21 then .isADirectory else .notADirectory
  | .invalidArgument _ code _ =>
    if systemErrorNumber code = 36 then .nameTooLong else .other e.toString
  | e => .other e.toString

/-- The contents of a file, or why they cannot be had. -/
def readFile (path : String) : IO (Except ReadError ByteArray) := do
  match pathError? path with
  | some e => return .error e
  | none =>
    try
      return .ok (← IO.FS.readBinFile path)
    catch e =>
      return .error (.ofSystem e)

/-- The result of a list of arguments, with files read from the system. -/
def execute (arguments : List String) : IO ProgramResult := do
  match Invocation.ofArguments arguments with
  | .ok (.render path _) =>
    let contents ← readFile path
    return .ofArguments (fun _ => contents) arguments
  | _ => return .ofArguments (fun _ => .error .notFound) arguments

end TypingSession

/-- Runs the program. -/
def main (arguments : List String) : IO UInt32 := do
  let result ← TypingSession.execute arguments
  (← IO.getStdout).putStr result.stdout
  (← IO.getStderr).putStr result.stderr
  return result.exitCode.toUInt32
