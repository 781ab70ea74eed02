import TypingSession.Failure.Stack

/-!
# TypingSession — amending a failure

On its way out a failure can be amended: frames are put around it, or another
stack takes its place.
-/

namespace TypingSession

/-- One change to a failing stack. -/
inductive Amendment where
  /-- Put a stack in front. -/
  | prepend (outer : ErrorStack)
  /-- Put a stack behind. -/
  | append (inner : ErrorStack)
  /-- Fail with another stack. -/
  | replace (other : ErrorStack)
  /-- Put a frame in front. -/
  | pushOuter (frame : Frame)
deriving DecidableEq, Repr

namespace Amendment

/-- The stack after one change. -/
def apply : Amendment → ErrorStack → ErrorStack
  | prepend outer, s => outer ++ s
  | append inner, s => s ++ inner
  | replace other, _ => other
  | pushOuter frame, s => s.pushOuter frame

/-- The stack after several changes, the first of them first. -/
def applyAll (changes : List Amendment) (s : ErrorStack) : ErrorStack :=
  changes.foldl (fun s change => change.apply s) s

/-- The stack after each of several changes, from the untouched one on. -/
def history : List Amendment → ErrorStack → List ErrorStack
  | [], s => [s]
  | change :: rest, s => s :: history rest (change.apply s)

end Amendment

end TypingSession
