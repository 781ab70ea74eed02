/-!
# TypingSession — what can be wrong with a fixture

A fixture cannot be read, holds nothing, or has a line that does not describe a
frame. The first such line is the one reported, by its number.
-/

namespace TypingSession

/-- Why the contents of a file cannot be had. -/
inductive ReadError where
  /-- There is no such file. -/
  | notFound
  /-- Something on the way to it is no directory. -/
  | notADirectory
  /-- It is a directory. -/
  | isADirectory
  /-- Reading it is not allowed. -/
  | denied
  /-- Its path, or a name in its path, is too long. -/
  | nameTooLong
  /-- Its path has a zero inside, where a path ends. -/
  | zeroInside
  /-- Its bytes are no text. -/
  | notText
  /-- Any other reason, as the system gives it. -/
  | other (reason : String)
deriving DecidableEq, Repr

/-- The reason as text. -/
def ReadError.message : ReadError → String
  | notFound => "No such file or directory (os error 2)"
  | notADirectory => "Not a directory (os error 20)"
  | isADirectory => "Is a directory (os error 21)"
  | denied => "Permission denied (os error 13)"
  | nameTooLong => "File name too long (os error 36)"
  | zeroInside => "file name contained an unexpected NUL byte"
  | notText => "stream did not contain valid UTF-8"
  | other reason => reason

/-- The two kinds of names that a source can have. -/
inductive SourceKind where
  /-- The name of a value. -/
  | value
  /-- The name of a type. -/
  | type
deriving DecidableEq, Repr

/-- The word that announces a name of the kind. -/
def SourceKind.keyword : SourceKind → String
  | value => "value"
  | type => "type"

/-- What is wrong with a line. -/
inductive LineError where
  /-- It has no bar between source and message. -/
  | missingSeparator
  /-- Its source is of no known form. -/
  | unknownSource (tag : String)
  /-- The name in its source is misspelt. -/
  | invalidName (kind : SourceKind) (name : String)
deriving DecidableEq, Repr

/-- What is wrong with a line, as text. -/
def LineError.message : LineError → String
  | missingSeparator => "expected `<source> | <message>`"
  | unknownSource tag =>
    "unknown source `" ++ tag ++ "`, expected `-`, `value <name>` or `type <name>`"
  | invalidName kind name => "`" ++ name ++ "` is not a valid " ++ kind.keyword ++ " name"

/-- What is wrong with a fixture. -/
inductive FixtureError where
  /-- A line does not describe a frame. -/
  | line (number : Nat) (error : LineError)
  /-- No line describes a frame. -/
  | empty
  /-- The file cannot be read. -/
  | unreadable (path : String) (reason : ReadError)
deriving DecidableEq, Repr

namespace FixtureError

/-- What is wrong with a fixture, as text. -/
def message : FixtureError → String
  | line number error => "line " ++ number.repr ++ ": " ++ error.message
  | empty => "fixture holds no frames"
  | unreadable path reason => "cannot read " ++ path ++ ": " ++ reason.message

/-- The number of the line to blame, if it is a line. -/
def line? : FixtureError → Option Nat
  | line number _ => some number
  | empty | unreadable _ _ => none

end FixtureError

end TypingSession
