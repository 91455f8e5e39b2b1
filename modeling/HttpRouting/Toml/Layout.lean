/-
Blanks, comments and line ends of a TOML text.

* `isGap`, `isVisible`: the characters within a line;
* `skipGaps`: what follows the blanks of a line;
* `endLine?`: what follows a line of which at most blanks and a comment are left;
* `skipFiller`: what follows blanks, comments and line ends in any order.
-/

namespace HttpRouting.Toml

/-- A blank within a line. -/
def isGap (c : Char) : Bool :=
  c == ' ' || c == '\t'

/-- A character that may stand in a comment or between quotes: a tab, or no control character of
ASCII. -/
def isVisible (c : Char) : Bool :=
  c == '\t' || ' ' ≤ c && c != '\x7f'

/-- What follows the blanks of a line. -/
def skipGaps (cs : List Char) : List Char :=
  cs.dropWhile isGap

/-- What follows a line end: a line feed, with or without a carriage return. -/
def lineEnd? : List Char → Option (List Char)
  | '\n' :: rest => some rest
  | '\r' :: '\n' :: rest => some rest
  | _ => none

/-- What follows a comment, if there is one. -/
def skipComment : List Char → List Char
  | '#' :: rest => rest.dropWhile isVisible
  | cs => cs

/-- What follows the line, if at most blanks and a comment are left of it. -/
def endLine? (cs : List Char) : Option (List Char) :=
  match skipComment (skipGaps cs) with
  | [] => some []
  | rest => lineEnd? rest

/-- What follows blanks, comments and line ends, from within a comment or not. -/
def skipFillerFrom : Bool → List Char → List Char
  | _, [] => []
  | _, '\n' :: cs => skipFillerFrom false cs
  | _, '\r' :: '\n' :: cs => skipFillerFrom false cs
  | true, c :: cs => if isVisible c then skipFillerFrom true cs else c :: cs
  | false, '#' :: cs => skipFillerFrom true cs
  | false, c :: cs => if isGap c then skipFillerFrom false cs else c :: cs

/-- What follows blanks, comments and line ends. -/
def skipFiller (cs : List Char) : List Char :=
  skipFillerFrom false cs

end HttpRouting.Toml
