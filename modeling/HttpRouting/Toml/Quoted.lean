/-
Quoted texts of TOML.

* `QuoteStyle`: the four ways to quote;
* `QuoteStyle.split?`: the characters up to the closing mark, and what follows it;
* `QuoteStyle.step`, `QuoteStyle.decode?`: the text that these characters stand for;
* `readQuoted?`: a text quoted in any way, and what follows it.
-/
import HttpRouting.Text.Digit
import HttpRouting.Toml.Layout

namespace HttpRouting.Toml

/-- A way to quote a text. -/
structure QuoteStyle where
  mark : Char
  /-- Whether a backslash starts an escape. -/
  escapes : Bool
  /-- Whether the mark is written three times and the text may have several lines. -/
  lines : Bool
deriving DecidableEq, Repr

namespace QuoteStyle

/-! ### Where a quoted text ends -/

/-- The characters before the closing mark, and what follows it. -/
def splitAtMark? (q : QuoteStyle) : List Char → Option (List Char × List Char)
  | [] => none
  | c :: cs =>
    if c == q.mark then some ([], cs)
    else if q.escapes && c == '\\' then
      match cs with
      | [] => none
      | d :: ds => (splitAtMark? q ds).map fun (inner, rest) => (c :: d :: inner, rest)
    else (splitAtMark? q cs).map fun (inner, rest) => (c :: inner, rest)

/-- The characters before three closing marks, and what follows them. Up to two more marks
directly before the closing ones belong to the text. -/
def splitAtMarks? (q : QuoteStyle) : List Char → Option (List Char × List Char)
  | [] => none
  | c :: cs =>
    if c == q.mark && cs.take 2 == [q.mark, q.mark] then
      let more := ((cs.drop 2).takeWhile (· == q.mark)).take 2
      some (more, cs.drop (2 + more.length))
    else if q.escapes && c == '\\' then
      match cs with
      | [] => none
      | d :: ds => (splitAtMarks? q ds).map fun (inner, rest) => (c :: d :: inner, rest)
    else (splitAtMarks? q cs).map fun (inner, rest) => (c :: inner, rest)

/-- The characters before the end, and what follows it. -/
def split? (q : QuoteStyle) (cs : List Char) : Option (List Char × List Char) :=
  if q.lines then q.splitAtMarks? cs else q.splitAtMark? cs

end QuoteStyle

/-! ### What a quoted text stands for -/

/-- Where a reader of a quoted text stands. -/
inductive QuoteState where
  | plain
  /-- After a carriage return, which a line feed follows. -/
  | carriage
  /-- After a backslash. -/
  | escape
  /-- Within a character given by its number, with some digits left. -/
  | digits (left value : Nat)
  /-- Within the blanks that a backslash at the end of a line removes. The line may not have
  ended yet. -/
  | joining (ended : Bool)
  /-- There, after a carriage return. -/
  | joiningCarriage
deriving DecidableEq, Repr

/-- Whether a quoted text may end in a state. -/
def QuoteState.isFinal : QuoteState → Bool
  | plain | joining true => true
  | _ => false

/-- The character that an escape of one letter stands for. -/
def shortEscape? : Char → Option Char
  | 'b' => some '\x08'
  | 't' => some '\t'
  | 'n' => some '\n'
  | 'f' => some '\x0c'
  | 'r' => some '\r'
  | 'e' => some '\x1b'
  | '"' => some '"'
  | '\\' => some '\\'
  | _ => none

/-- The number of hexadecimal digits that follow the letter of an escape. -/
def escapeDigits? : Char → Option Nat
  | 'x' => some 2
  | 'u' => some 4
  | 'U' => some 8
  | _ => none

namespace QuoteStyle

/-- The step from the plain state. -/
def plainStep (q : QuoteStyle) (c : Char) : Option (List Char × QuoteState) :=
  if q.escapes && c == '\\' then some ([], .escape)
  else if q.lines && c == '\n' then some ([c], .plain)
  else if q.lines && c == '\r' then some ([c], .carriage)
  else if isVisible c then some ([c], .plain)
  else none

/-- The step after a backslash. -/
def escapeStep (q : QuoteStyle) (c : Char) : Option (List Char × QuoteState) :=
  match shortEscape? c, escapeDigits? c with
  | some d, _ => some ([d], .plain)
  | none, some n => some ([], .digits n 0)
  | none, none =>
    if q.lines && isGap c then some ([], .joining false)
    else if q.lines && c == '\n' then some ([], .joining true)
    else if q.lines && c == '\r' then some ([], .joiningCarriage)
    else none

/-- What a character stands for in a state, and the state after it. -/
def step (q : QuoteStyle) : QuoteState → Char → Option (List Char × QuoteState)
  | .plain, c => q.plainStep c
  | .carriage, c => if c == '\n' then some ([c], .plain) else none
  | .escape, c => q.escapeStep c
  | .digits left value, c => do
    let value := 16 * value + (← Text.digitValue? c)
    if left ≤ 1 then return ([← Text.charOf? value], .plain)
    return ([], .digits (left - 1) value)
  | .joining ended, c =>
    if isGap c then some ([], .joining ended)
    else if c == '\n' then some ([], .joining true)
    else if c == '\r' then some ([], .joiningCarriage)
    else if ended then q.plainStep c
    else none
  | .joiningCarriage, c => if c == '\n' then some ([], .joining true) else none

/-- The text that characters stand for, from a state on. -/
def decodeFrom? (q : QuoteStyle) : QuoteState → List Char → Option (List Char)
  | s, [] => if s.isFinal then some [] else none
  | s, c :: cs => do
    let (out, s) ← q.step s c
    return out ++ (← q.decodeFrom? s cs)

/-- The text that characters between quotes stand for. -/
def decode? (q : QuoteStyle) (cs : List Char) : Option (List Char) :=
  q.decodeFrom? .plain cs

/-- A quoted text whose opening marks were read, and what follows it. A line end directly after
three opening marks does not count. -/
def read? (q : QuoteStyle) (cs : List Char) : Option (String × List Char) := do
  let cs := if q.lines then (lineEnd? cs).getD cs else cs
  let (inner, rest) ← q.split? cs
  return (String.ofList (← q.decode? inner), rest)

end QuoteStyle

/-- A text quoted in one line, and what follows it. -/
def readLineQuoted? : List Char → Option (String × List Char)
  | '"' :: cs => QuoteStyle.read? ⟨'"', true, false⟩ cs
  | '\'' :: cs => QuoteStyle.read? ⟨'\'', false, false⟩ cs
  | _ => none

/-- A quoted text, and what follows it. -/
def readQuoted? : List Char → Option (String × List Char)
  | '"' :: '"' :: '"' :: cs => QuoteStyle.read? ⟨'"', true, true⟩ cs
  | '\'' :: '\'' :: '\'' :: cs => QuoteStyle.read? ⟨'\'', false, true⟩ cs
  | cs => readLineQuoted? cs

end HttpRouting.Toml
