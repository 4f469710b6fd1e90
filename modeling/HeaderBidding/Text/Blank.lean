import HeaderBidding.Text.Ranges
import HeaderBidding.Text.Trim

/-!
# Blank characters

A character is blank when it has the property White_Space. Trimming removes the blank characters
at both ends of a text.
-/

namespace HeaderBidding.Text

/-- The code points with the property White_Space. -/
def blanks : Ranges :=
  [(0x9, 0xD), (0x20, 0x20), (0x85, 0x85), (0xA0, 0xA0), (0x1680, 0x1680), (0x2000, 0x200A),
   (0x2028, 0x2029), (0x202F, 0x202F), (0x205F, 0x205F), (0x3000, 0x3000)]

/-- Whether a character is blank. -/
def isBlank (c : Char) : Bool :=
  blanks.has c

/-- A text without the blank characters at its two ends. -/
def trim (s : List Char) : List Char :=
  trimWhile isBlank s

end HeaderBidding.Text
