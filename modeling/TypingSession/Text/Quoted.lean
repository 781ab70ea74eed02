import TypingSession.Text.Unprintable

/-!
# TypingSession — quoted text

A text between double quotes, with the characters that would be misread inside
escaped: the quote, the backslash, the common controls by a letter, and every
other unprintable character by its number in hexadecimal.
-/

namespace TypingSession.Text

/-- The digits of a number in base sixteen, in small letters. -/
def hexadecimal (n : Nat) : List Char := Nat.toDigits 16 n

/-- A character as it stands between quotes. -/
def escape (c : Char) : List Char :=
  match c with
  | '\x00' => ['\\', '0']
  | '\t' => ['\\', 't']
  | '\r' => ['\\', 'r']
  | '\n' => ['\\', 'n']
  | '"' => ['\\', '"']
  | '\\' => ['\\', '\\']
  | c =>
    if isUnprintable c then ['\\', 'u', '\x7b'] ++ hexadecimal c.toNat ++ ['\x7d'] else [c]

/-- A text between double quotes. -/
def quoted (s : String) : String :=
  String.ofList ('"' :: s.toList.flatMap escape ++ ['"'])

end TypingSession.Text
