import TypingSession.Value

/-!
# TypingSession — error frames

A frame is one message of a failure, with the expression or the type that it is
about, if any.
-/

namespace TypingSession

/-- What a frame is about. -/
inductive Source where
  /-- An expression. -/
  | value (v : Value)
  /-- A type. -/
  | type (t : Ty)
deriving DecidableEq, Repr

/-- One message of a failure. -/
structure Frame where
  /-- The message. -/
  message : String
  /-- What the message is about. -/
  source : Option Source
deriving DecidableEq, Repr

/-- Equality of sources, with numbers compared by value. -/
def Source.equal : Source → Source → Bool
  | value v, value w => v.equal w
  | type t, type u => t == u
  | _, _ => false

namespace Frame

/-- Whether the frame is about something. -/
def carriesSource (f : Frame) : Bool := f.source.isSome

/-- The frame as text: the message, on a line of its own below what it is about. -/
def text (f : Frame) : String :=
  match f.source with
  | none => f.message
  | some (.value v) => "Error in value " ++ v.text ++ ": \n" ++ f.message
  | some (.type t) => "Error in type " ++ t.text ++ ": \n" ++ f.message

/-- Equality of frames, with numbers compared by value. -/
def equal (f g : Frame) : Bool :=
  f.message == g.message &&
    match f.source, g.source with
    | none, none => true
    | some s, some t => s.equal t
    | _, _ => false

end Frame

end TypingSession
