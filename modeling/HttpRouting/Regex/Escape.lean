/-
Escapes in the notation of regular expressions.

* `Escape`: what a backslash sequence stands for;
* `Escape.readHex?`: a character by its code point;
* `Escape.readProperty?`: a set by a property of characters;
* `Escape.readWordEdge?`: an edge of a word;
* `Escape.read?`: the escape at the beginning of a text, after its backslash.

The readers give `none` on a text that does not follow the notation.
-/
import HttpRouting.Regex.Basic
import HttpRouting.Regex.Mode
import HttpRouting.Text.Digit
import HttpRouting.Text.Property

namespace HttpRouting

/-- What a backslash sequence stands for. -/
inductive Escape where
  | char (c : Char)
  | set (s : CharSet)
  | anchor (a : Anchor)

namespace Escape

/-! ### Code points -/

/-- The character that hexadecimal digits spell. -/
def hexChar? (digits : List Char) : Option Char :=
  Text.charOf? (Text.numberOf 16 digits)

/-- The character that `count` hexadecimal digits, or any number of them in braces, name. Two digits
spell a byte, which an ASCII text must allow. -/
def readHex? (m : Mode) (count : Nat) (cs : List Char) : Reading Char :=
  match m.skip cs with
  | '{' :: cs =>
    match m.take (Text.isDigitOf 16) cs.length cs with
    | (d :: ds, '}' :: rest) => (hexChar? (d :: ds)).map (·, rest)
    | _ => none
  | _ =>
    let (ds, rest) := m.take (Text.isDigitOf 16) count cs
    if ds.length = count then
      ((hexChar? ds).filter fun c => count != 2 || m.allows c).map (·, rest)
    else none

/-! ### Properties -/

/-- A text before and after the first place where `mark` stands in it. -/
def cut? (mark : List Char) : List Char → Option (List Char × List Char)
  | [] => none
  | c :: cs =>
    if mark.isPrefixOf (c :: cs) then some ([], (c :: cs).drop mark.length)
    else (cut? mark cs).map fun (before, after) => (c :: before, after)

/-- The set of a property, or of one of its values, which follows a sign. All signs mean the
same. -/
def propertySet? (name : List Char) : Option CharSet :=
  let parts := (cut? ['!', '='] name).or ((cut? [':'] name).or (cut? ['='] name))
  let members :=
    match parts with
    | some (property, value) => Text.propertyValue? property value
    | none => Text.property? name
  members.map (.table · .exact)

/-- The set of a property, or its complement. The name stands in braces, or it is one letter. -/
def readProperty? (m : Mode) (negated : Bool) (cs : List Char) : Reading Escape :=
  let named := fun (name rest : List Char) =>
    (propertySet? name).map fun s => (.set (if negated then .compl s else s), rest)
  if m.ascii then none
  else
    match m.skip cs with
    | [] => none
    | '{' :: cs =>
      match m.take (· != '}') cs.length cs with
      | (name, '}' :: rest) => named name rest
      | _ => none
    | '\\' :: _ => none
    | c :: rest => named [c] rest

/-! ### Edges of words -/

/-- The edges of a word that have a name. -/
def namedEdge? : String → Option WordEdge
  | "start" => some .start
  | "end" => some .stop
  | "start-half" => some .afterNoWord
  | "end-half" => some .beforeNoWord
  | _ => none

/-- Whether the name of an edge may hold a character. -/
def isEdgeChar (c : Char) : Bool :=
  c.isAlpha || c == '-'

/-- The edge of a word, or the one that is named in braces. Braces with something else in them are
left. -/
def readWordEdge? (m : Mode) (cs : List Char) : Reading Escape :=
  match cs with
  | '{' :: rest =>
    match m.take isEdgeChar rest.length rest with
    | ([], []) => none
    | ([], _ :: _) => some (.anchor (.word .edge m.ascii), cs)
    | (name, '}' :: rest) =>
      (namedEdge? (String.ofList name)).map fun e => (.anchor (.word e m.ascii), rest)
    | _ => none
  | _ => some (.anchor (.word .edge m.ascii), cs)

/-! ### All escapes -/

/-- Whether a backslash makes a character stand for itself: ASCII punctuation, blanks and
controls. -/
def isEscapable (c : Char) : Bool :=
  c.val < 128 && !c.isAlphanum

/-- The set of a class, or its complement. -/
def readClass? (m : Mode) (negated : Bool) (s : CharSet) (cs : List Char) : Reading Escape :=
  (m.complement? negated (m.restrict s)).map (.set ·, cs)

/-- The meaning of the characters after a backslash. -/
def read? (m : Mode) : List Char → Reading Escape
  | [] => none
  | 'd' :: cs => readClass? m false .digit cs
  | 'D' :: cs => readClass? m true .digit cs
  | 's' :: cs => readClass? m false .blank cs
  | 'S' :: cs => readClass? m true .blank cs
  | 'w' :: cs => readClass? m false .word cs
  | 'W' :: cs => readClass? m true .word cs
  | 'p' :: cs => readProperty? m false cs
  | 'P' :: cs => readProperty? m true cs
  | 'b' :: cs => readWordEdge? m cs
  | 'B' :: cs => some (.anchor (.word .notEdge m.ascii), cs)
  | '<' :: cs => some (.anchor (.word .start m.ascii), cs)
  | '>' :: cs => some (.anchor (.word .stop m.ascii), cs)
  | 'A' :: cs => some (.anchor .start, cs)
  | 'z' :: cs => some (.anchor .stop, cs)
  | 'a' :: cs => some (.char '\x07', cs)
  | 'f' :: cs => some (.char '\x0c', cs)
  | 'n' :: cs => some (.char '\n', cs)
  | 'r' :: cs => some (.char '\r', cs)
  | 't' :: cs => some (.char '\t', cs)
  | 'v' :: cs => some (.char '\x0b', cs)
  | 'x' :: cs => (readHex? m 2 cs).map fun (c, cs) => (.char c, cs)
  | 'u' :: cs => (readHex? m 4 cs).map fun (c, cs) => (.char c, cs)
  | 'U' :: cs => (readHex? m 8 cs).map fun (c, cs) => (.char c, cs)
  | c :: cs => if isEscapable c then some (.char c, cs) else none

end Escape

end HttpRouting
