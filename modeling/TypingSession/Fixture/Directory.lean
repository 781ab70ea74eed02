import TypingSession.Fixture.Error
import TypingSession.Text.Split

/-!
# TypingSession — paths in a flat directory

A working directory that holds regular files and no directories. A path that can
be followed at all is walked part by part: a part that names a file must be the
last, no name may be too long, and outside the working directory nothing is known
but that directories contain each other. Lengths are counted in bytes.
-/

namespace TypingSession

/-- The most bytes that a path can have. -/
def longestPath : Nat := 4095

/-- The most bytes that the name of a file can have. -/
def longestName : Nat := 255

/-- What keeps a path from being followed, whatever files there are. -/
def pathError? (path : String) : Option ReadError :=
  if path.toList.contains '\x00' then some .zeroInside
  else if longestPath < path.utf8ByteSize then some .nameTooLong
  else if path.isEmpty then some .notFound
  else none

/-- The regular files of a directory, by name. -/
structure Directory where
  /-- Each file with its contents. -/
  files : List (String × ByteArray)

namespace Directory

/-- A place that a path can lead to. -/
inductive Place where
  /-- The directory itself. -/
  | inside
  /-- A directory that contains it. -/
  | outside
  /-- One of its files. -/
  | file (contents : ByteArray)

/-- One step of a walk. -/
def step (d : Directory) : Place → List Char → Except ReadError Place
  -- a file has no parts, not even itself
  | .file _, _ => .error .notADirectory
  | place, [] | place, ['.'] => .ok place
  | _, ['.', '.'] => .ok .outside
  | place, part =>
    let name := String.ofList part
    if longestName < name.utf8ByteSize then .error .nameTooLong
    else
      match place, d.files.lookup name with
      | .inside, some contents => .ok (.file contents)
      | _, _ => .error .notFound

/-- The place that some parts lead to. -/
def walk (d : Directory) : Place → List (List Char) → Except ReadError Place
  | place, [] => .ok place
  | place, part :: rest =>
    match d.step place part with
    | .ok next => walk d next rest
    | .error e => .error e

/-- The place where the walk of a path begins. -/
def start (path : String) : Place := if path.startsWith "/" then .outside else .inside

/-- The contents of the file that a path leads to. -/
def read (d : Directory) (path : String) : Except ReadError ByteArray :=
  match pathError? path with
  | some e => .error e
  | none =>
    match d.walk (start path) (Text.fields '/' path.toList) with
    | .ok (.file contents) => .ok contents
    | .ok .inside | .ok .outside => .error .isADirectory
    | .error e => .error e

end Directory

end TypingSession
