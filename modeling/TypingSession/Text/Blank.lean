import TypingSession.Text.CodePoint

/-!
# TypingSession — blank characters

The blank characters are those with the property White_Space. `trim` removes
them from both ends of a text, and they end the first word of a source tag.
-/

namespace TypingSession.Text

/-- The characters with the property White_Space. -/
def blankRanges : CodePoints :=
  [ (0x9, 0xD), (0x20, 0x20), (0x85, 0x85), (0xA0, 0xA0), (0x1680, 0x1680), (0x2000, 0x200A),
    (0x2028, 0x2029), (0x202F, 0x202F), (0x205F, 0x205F), (0x3000, 0x3000) ]

/-- Whether a character is blank. -/
def isBlank (c : Char) : Bool := blankRanges.covers c.toNat

/-- A text without its leading blanks. -/
def trimStart (l : List Char) : List Char := l.dropWhile isBlank

/-- A text without its trailing blanks. -/
def trimEnd (l : List Char) : List Char := (l.reverse.dropWhile isBlank).reverse

/-- A text without the blanks at its two ends. -/
def trim (l : List Char) : List Char := trimEnd (trimStart l)

end TypingSession.Text
