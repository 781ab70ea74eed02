import TypingSession.Failure.Stack
import TypingSession.Fixture.Error
import TypingSession.Text.Blank

/-!
# TypingSession — reading fixtures

A fixture is a failure written as text, a frame on each line, outermost first.
Before the first bar of a line stands the source of the frame, and after it the
message. The source is a dash for none, or the word `value` or `type` and a name.
Blank lines, and lines that start with `#`, are skipped.

    # comments and blank lines are skipped
    value Main.main   | Error checking main
    -                 | While unifying
    type Prim.String  | Cannot unify Prim.String with Prim.Number
-/

namespace TypingSession.Fixture

/-! ## Names -/

/-- A name with its dots: identifiers, all but the last of them capitalized. -/
def parseName (l : List Char) : Option Qualified :=
  -- there is always a last segment, empty if the text ends in a dot
  let segments := Text.fields '.' l
  let path := segments.dropLast
  let last := segments.getLastD []
  if isIdentifier last && path.all (fun s => isIdentifier s && isCapitalized s) then
    some ⟨if path.isEmpty then none else some ⟨path.map String.ofList⟩, String.ofList last⟩
  else none

/-- A value by its name: a constructor if the name is capitalized, and a variable
otherwise. -/
def parseValue (l : List Char) : Option Value :=
  (parseName l).map fun name =>
    if isCapitalized name.name.toList then .con name else .var name

/-- A type by its name: a constructor if the name is capitalized, and otherwise a
type variable, which no module declares. -/
def parseType (l : List Char) : Option Ty :=
  match parseName l with
  | none => none
  | some name =>
    if isCapitalized name.name.toList then some (.con name)
    else if name.module.isSome then none
    else some (.var name.name)

/-! ## Lines -/

/-- The source that a tag names. -/
def parseSource (tag : List Char) : Except LineError (Option Source) :=
  if tag = ['-'] then .ok none
  else
    match Text.cut Text.isBlank tag with
    | none => .error (.unknownSource (String.ofList tag))
    | some (word, rest) =>
      let name := Text.trim rest
      -- the tag is trimmed, so a name follows the blank, though perhaps a bad one
      if word = SourceKind.value.keyword.toList then
        match parseValue name with
        | some v => .ok (some (.value v))
        | none => .error (.invalidName .value (String.ofList name))
      else if word = SourceKind.type.keyword.toList then
        match parseType name with
        | some t => .ok (some (.type t))
        | none => .error (.invalidName .type (String.ofList name))
      else .error (.unknownSource (String.ofList tag))

/-- Whether a trimmed line describes a frame. -/
def isSignificant (line : List Char) : Bool := !line.isEmpty && line.head? != some '#'

/-- The frame that a significant line describes. -/
def parseFrame (line : List Char) : Except LineError Frame :=
  match Text.cut (· == '|') line with
  | none => .error .missingSeparator
  | some (tag, message) =>
    match parseSource (Text.trim tag) with
    | .error e => .error e
    | .ok source => .ok ⟨String.ofList (Text.trim message), source⟩

/-- The frames of some lines, the first of which has the given number. -/
def parseLines (number : Nat) : List (List Char) → Except FixtureError (List Frame)
  | [] => .ok []
  | raw :: rest =>
    let line := Text.trim raw
    if isSignificant line then
      match parseFrame line with
      | .error e => .error (.line number e)
      | .ok frame => (parseLines (number + 1) rest).map (frame :: ·)
    else parseLines (number + 1) rest

/-- The failure that a text describes. -/
def parse (text : String) : Except FixtureError ErrorStack :=
  match parseLines 1 (Text.lines text.toList) with
  | .error e => .error e
  | .ok frames =>
    match ErrorStack.ofList? frames with
    | some stack => .ok stack
    | none => .error .empty

/-- The failure that the contents of a file describe. -/
def parseFile (path : String) (contents : Except ReadError ByteArray) :
    Except FixtureError ErrorStack :=
  match contents with
  | .error reason => .error (.unreadable path reason)
  | .ok bytes =>
    match String.fromUTF8? bytes with
    | some text => parse text
    | none => .error (.unreadable path .notText)

end TypingSession.Fixture
