import TypingSession.Failure.Stack
import TypingSession.Fixture.Error

/-!
# TypingSession — writing fixtures

The text that describes a failure, a line for each frame.
-/

namespace TypingSession.Fixture

/-- The tag of a source. -/
def tag : Option Source → String
  | none => "-"
  | some (.value v) => SourceKind.value.keyword ++ " " ++ v.text
  | some (.type t) => SourceKind.type.keyword ++ " " ++ t.text

/-- The line of a frame. -/
def line (f : Frame) : String := tag f.source ++ " | " ++ f.message

/-- The lines of some frames, each with its ending. -/
def write (frames : List Frame) : String := String.join (frames.map fun f => line f ++ "\n")

end TypingSession.Fixture
