/-
Word characters: letters, marks, decimal digits, connecting punctuation and joiners.

* `connectorRanges`, `joinerRange`: connecting punctuation outside ASCII, and the joiners;
* `isWordChar`: membership, with the ASCII part spelled out;
* `wordEdges`: the set of the word characters.
-/
import HttpRouting.Text.DecimalDigit
import HttpRouting.Text.Letter
import HttpRouting.Text.Mark

namespace HttpRouting.Text

/-! ### Membership -/

/-- The connecting punctuation outside ASCII, in increasing order. -/
def connectorRanges : List CodeRange :=
  [(0x203F, 0x2040), (0x2054, 0x2054), (0xFE33, 0xFE34), (0xFE4D, 0xFE4F), (0xFF3F, 0xFF3F)]

/-- The joiners. -/
def joinerRange : CodeRange := (0x200C, 0x200D)

/-- Whether a character can be part of a word. -/
def isWordChar (c : Char) : Bool :=
  if c.val < 128 then c.isAlphanum || c == '_'
  else
    isLetter c || isMark c || isDecimalDigit c || connectorRanges.any (·.contains c) ||
      joinerRange.contains c

/-! ### The set -/

/-- The ASCII digits, capital letters, underscore and small letters. -/
def asciiWordRanges : List CodeRange :=
  [(0x30, 0x39), (0x41, 0x5A), (0x5F, 0x5F), (0x61, 0x7A)]

/-- The set of the word characters. -/
def wordEdges : Edges :=
  [asciiWordRanges, letterRanges, markRanges, decimalDigitRanges, connectorRanges, [joinerRange]]
    |>.foldr (fun rs es => Edges.union (.ofRanges rs) es) []

end HttpRouting.Text
