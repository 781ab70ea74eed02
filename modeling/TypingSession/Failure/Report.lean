import TypingSession.Failure.Frame

/-!
# TypingSession — reports

A list of frames, outermost first, is reported in full or in brief. In full,
every message stands on a line of its own. In brief, at most three frames remain:
the first and the last that are about something, then the most specific one.
-/

namespace TypingSession.Frame

/-- The frames of a brief report: the first and the last that carry a source, and
the last of all, each once. -/
def salient (frames : List Frame) : List Frame :=
  match frames.getLast? with
  | none => []
  | some last =>
    match frames.filter carriesSource with
    | [] => [last]
    | first :: more =>
      match more.getLast?, last.carriesSource with
      -- a single frame carries a source, and it may be the last one
      | none, true => [last]
      | none, false => [first, last]
      -- several do; if the last frame is one of them, it is the latest
      | some _, true => [first, last]
      | some latest, false => [first, latest, last]

/-- The messages of all frames, a line each. -/
def verboseReport (frames : List Frame) : String :=
  "\n".intercalate (frames.map message)

/-- The salient frames as text, one below the other. -/
def conciseReport (frames : List Frame) : String :=
  "\n".intercalate ((salient frames).map text)

/-- A report in full or in brief. -/
def report (verbose : Bool) (frames : List Frame) : String :=
  if verbose then verboseReport frames else conciseReport frames

end TypingSession.Frame
