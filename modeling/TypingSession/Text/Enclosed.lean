/-!
# TypingSession — parentheses
-/

namespace TypingSession.Text

/-- A text, in parentheses if they are needed. -/
def enclosed (needed : Bool) (s : String) : String :=
  if needed then "(" ++ s ++ ")" else s

@[simp] theorem enclosed_true (s : String) : enclosed true s = "(" ++ s ++ ")" := rfl

@[simp] theorem enclosed_false (s : String) : enclosed false s = s := rfl

end TypingSession.Text
