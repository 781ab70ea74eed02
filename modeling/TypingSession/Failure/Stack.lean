import TypingSession.Failure.Report

/-!
# TypingSession — error stacks

A failure is a non-empty stack of frames, outermost first. The last frame says
what went wrong; each enclosing computation that adds context puts its frames in
front.

* `toList_append`, `toList_pushOuter` — what the operations do to the frames.
* `mostSpecific_append`, `mostSpecific_pushOuter` — context in front leaves the
  last frame alone.
-/

namespace TypingSession

/-- The frames of a failure, outermost first. -/
structure ErrorStack where
  /-- The outermost frame. -/
  outermost : Frame
  /-- The frames inside it. -/
  inner : List Frame
deriving DecidableEq, Repr

namespace ErrorStack

/-- The frames in order. -/
def toList (s : ErrorStack) : List Frame := s.outermost :: s.inner

/-- The stack of the given frames, if there are any. -/
def ofList? : List Frame → Option ErrorStack
  | [] => none
  | f :: rest => some ⟨f, rest⟩

/-- A stack of one frame. -/
def single (message : String) (source : Option Source) : ErrorStack := ⟨⟨message, source⟩, []⟩

/-- One stack in front of another. -/
def append (s t : ErrorStack) : ErrorStack := ⟨s.outermost, s.inner ++ t.toList⟩

instance : Append ErrorStack := ⟨append⟩

/-- A stack with a new outermost frame. -/
def pushOuter (f : Frame) (s : ErrorStack) : ErrorStack := ⟨f, s.toList⟩

/-- The number of frames. -/
def depth (s : ErrorStack) : Nat := s.toList.length

/-- The frame that says what went wrong. -/
def mostSpecific (s : ErrorStack) : Frame := s.inner.getLastD s.outermost

/-- The stack as text, in full or in brief. -/
def report (verbose : Bool) (s : ErrorStack) : String := Frame.report verbose s.toList

/-! ## The frames of each operation -/

@[ext] theorem ext_toList {s t : ErrorStack} (h : s.toList = t.toList) : s = t := by
  cases s; cases t
  simp only [toList, List.cons.injEq] at h
  simp [h]

@[simp] theorem toList_append (s t : ErrorStack) : (s ++ t).toList = s.toList ++ t.toList := rfl

@[simp] theorem toList_pushOuter (f : Frame) (s : ErrorStack) :
    (s.pushOuter f).toList = f :: s.toList := rfl

@[simp] theorem toList_single (m : String) (o : Option Source) :
    (single m o).toList = [⟨m, o⟩] := rfl

@[simp] theorem depth_append (s t : ErrorStack) : (s ++ t).depth = s.depth + t.depth := by
  simp [depth]

@[simp] theorem depth_pushOuter (f : Frame) (s : ErrorStack) :
    (s.pushOuter f).depth = s.depth + 1 :=
  rfl

theorem depth_pos (s : ErrorStack) : 0 < s.depth := Nat.succ_pos _

theorem toList_ne_nil (s : ErrorStack) : s.toList ≠ [] := List.cons_ne_nil _ _

theorem ofList?_eq_some_iff {l : List Frame} {s : ErrorStack} :
    ofList? l = some s ↔ l = s.toList := by
  cases l with
  | nil => simp [ofList?, toList]
  | cons f rest => cases s; simp [ofList?, toList]

theorem getLast?_toList (s : ErrorStack) : s.toList.getLast? = some s.mostSpecific := by
  simp [toList, mostSpecific, List.getLast?_cons, List.getLastD_eq_getLast?]

/-- Frames in front leave the last one alone. -/
theorem mostSpecific_eq_of_toList {s t : ErrorStack} {outer : List Frame}
    (h : s.toList = outer ++ t.toList) : s.mostSpecific = t.mostSpecific := by
  have hlast := getLast?_toList s
  rw [h, List.getLast?_append, getLast?_toList] at hlast
  simpa using hlast.symm

@[simp] theorem mostSpecific_append (s t : ErrorStack) :
    (s ++ t).mostSpecific = t.mostSpecific :=
  mostSpecific_eq_of_toList (toList_append s t)

@[simp] theorem mostSpecific_pushOuter (f : Frame) (s : ErrorStack) :
    (s.pushOuter f).mostSpecific = s.mostSpecific := by
  have h : (s.pushOuter f).toList = [f] ++ s.toList := toList_pushOuter f s
  exact mostSpecific_eq_of_toList h

end ErrorStack

end TypingSession
