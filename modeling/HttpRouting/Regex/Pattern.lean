/-
Patterns: regular expressions in their written form.

* `Phrase.ofText?`: the phrase of a text, or `none` if the text does not follow the notation;
* `Pattern`: an expression with the names of its groups;
* `Pattern.parse?`: the pattern of a text, if it is not too large;
* `Pattern.match?`: the leftmost match in a text, with its groups;
* `Pattern.isMatch`: whether there is one;
* `escapeLiteral`: the text that matches a given text and nothing else.
-/
import HttpRouting.Regex.Assembly
import HttpRouting.Regex.Footprint
import HttpRouting.Regex.Scanner

namespace HttpRouting

/-! ### Patterns -/

/-- How deep the parts of a phrase may nest. -/
def maxNesting : Nat := 250

/-- Whether a phrase follows the notation: it does not nest too deep, and no two groups share a
name. -/
def Phrase.isSound (p : Phrase) : Bool :=
  p.depth ≤ maxNesting && p.writtenNames.Nodup

/-- The phrase that a text spells. -/
def Phrase.ofText? (text : List Char) : Option Phrase :=
  ((Token.readAll? text).bind Phrase.ofTokens?).filter Phrase.isSound

/-- A regular expression and the names of its groups, in order. -/
structure Pattern where
  regex : Regex
  groupNames : List String
deriving DecidableEq, Repr

namespace Pattern

/-- The pattern of a phrase. -/
def ofPhrase (p : Phrase) : Pattern :=
  ⟨p.regex, p.groupNames⟩

/-- The pattern that a text spells. Its automata must not be too large. -/
def parse? (text : List Char) : Option Pattern :=
  ((Phrase.ofText? text).filter (·.outline.fits)).map ofPhrase

/-! ### Matches -/

/-- A match in a text: the text and the marks of the run. -/
structure Match where
  text : List Char
  marks : List Mark
deriving Repr

/-- The position where a group was last opened. -/
def Match.openedAt? (m : Match) (name : String) : Option Nat :=
  m.marks.reverse.findSome? fun
    | .opened n i => if n = name then some i else none
    | .closed .. => none

/-- The position where a group was last closed. -/
def Match.closedAt? (m : Match) (name : String) : Option Nat :=
  m.marks.reverse.findSome? fun
    | .opened .. => none
    | .closed n i => if n = name then some i else none

/-- The text that a group matched, the last time that it took part. -/
def Match.group? (m : Match) (name : String) : Option (List Char) := do
  let first ← m.openedAt? name
  let last ← m.closedAt? name
  return (m.text.take last).drop first

/-- The leftmost match in a text. -/
def match? (p : Pattern) (text : List Char) : Option Match :=
  (Scanner.search p.regex text).map (⟨text, ·⟩)

/-- Whether there is a match in a text. -/
def isMatch (p : Pattern) (text : List Char) : Bool :=
  (Scanner.search p.regex text).isSome

end Pattern

/-! ### Literal text -/

/-- The characters that need a backslash to stand for themselves. -/
def isSpecial (c : Char) : Bool :=
  ['\\', '.', '+', '*', '?', '(', ')', '|', '[', ']', '{', '}', '^', '$', '#', '&', '-', '~'].contains c

/-- The text that matches a given text and nothing else. -/
def escapeLiteral (text : List Char) : List Char :=
  text.flatMap fun c => if isSpecial c then ['\\', c] else [c]

/-- Escaping works character by character. -/
theorem escapeLiteral_append (s t : List Char) :
    escapeLiteral (s ++ t) = escapeLiteral s ++ escapeLiteral t := by
  simp [escapeLiteral]

end HttpRouting
