/-
Blank characters: the characters that count as white space in any script.

* `blankRanges`: the blanks, as closed intervals of code points;
* `isBlank`: membership.
-/
import HttpRouting.Text.CodeRange

namespace HttpRouting.Text

/-- The blank characters, in increasing order. -/
def blankRanges : List CodeRange :=
  [(0x9, 0xD), (0x20, 0x20), (0x85, 0x85), (0xA0, 0xA0), (0x1680, 0x1680), (0x2000, 0x200A),
   (0x2028, 0x2029), (0x202F, 0x202F), (0x205F, 0x205F), (0x3000, 0x3000)]

/-- Whether a character is white space. -/
def isBlank (c : Char) : Bool :=
  blankRanges.any (·.contains c)

end HttpRouting.Text
