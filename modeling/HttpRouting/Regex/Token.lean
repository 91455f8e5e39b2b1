/-
Tokens of the regular expression notation.

* `Token`: a character set, an anchor, a repetition, or one of the marks that open, close and
  separate groups;
* `GroupKind`: what a group reports;
* `Scope`: the mode at a place, and those of the groups around it;
* `Scope.after?`: the scope after a token;
* `Token.read?`: the first token of a text and what is left of the text;
* `Token.readAll?`: all tokens of a text.

The readers give `none` on a text that does not follow the notation.
-/
import HttpRouting.Regex.Class
import HttpRouting.Text.Numeral

namespace HttpRouting

/-- What a group reports about its body: nothing, its position under a number, or its position
under a name. -/
inductive GroupKind where
  | plain
  | numbered
  | named (name : String)
deriving DecidableEq, Repr

/-- The name of a group. -/
def GroupKind.name? : GroupKind → Option String
  | named name => some name
  | plain | numbered => none

/-- A token of the notation. Brackets nest in a set up to some depth. -/
inductive Token where
  | set (s : CharSet) (nesting : Nat)
  | dot
  | caret
  | dollar
  | anchor (a : Anchor)
  | opening (kind : GroupKind) (change : FlagChange)
  | flags (change : FlagChange)
  | closing
  | bar
  | repetition (least : Nat) (most : Option Nat) (lazy : Bool)
deriving DecidableEq, Repr

/-! ### Scopes -/

/-- The mode at a place, and the modes around the groups that are open there, innermost first. -/
structure Scope where
  mode : Mode := {}
  outer : List Mode := []
deriving DecidableEq, Repr

/-- The scope after a token. A change of mode ends with the group that it is made in. -/
def Scope.after? (s : Scope) : Token → Option Scope
  | .opening _ change => some ⟨s.mode.apply change, s.mode :: s.outer⟩
  | .flags change => some { s with mode := s.mode.apply change }
  | .closing =>
    match s.outer with
    | [] => none
    | mode :: outer => some ⟨mode, outer⟩
  | .set .. | .dot | .caret | .dollar | .anchor _ | .bar | .repetition .. => some s

namespace Token

/-! ### Groups -/

/-- Whether a group name may begin with a character. -/
def isNameStart (c : Char) : Bool :=
  c == '_' || Text.isLetter c

/-- Whether a group name may hold a character. -/
def isNameChar (c : Char) : Bool :=
  c == '_' || c == '.' || c == '[' || c == ']' || Text.isLetter c || Text.isNumeral c

/-- A group name and its closing angle bracket. -/
def readName? (cs : List Char) : Reading Token :=
  let name := cs.takeWhile (· != '>')
  match cs.dropWhile (· != '>') with
  | '>' :: rest =>
    if name.head?.any isNameStart && name.all isNameChar then
      some (.opening (.named (String.ofList name)) {}, rest)
    else none
  | _ => none

/-- The switches of a group opening. Each letter comes at most once, and so does the dash, which
a letter must follow. `sign` is what a letter means now. -/
def readFlags? (change : FlagChange) (sign pending : Bool) : List Char → Reading Token
  | [] => none
  | '-' :: cs => if sign then readFlags? change false true cs else none
  | ':' :: cs => if pending then none else some (.opening .plain change, cs)
  | ')' :: cs => if pending || change == {} then none else some (.flags change, cs)
  | c :: cs => (change.put? sign c).bind fun change => readFlags? change sign false cs

/-- What an opening parenthesis begins. -/
def readOpening? (m : Mode) (cs : List Char) : Reading Token :=
  match m.skip cs with
  | '?' :: 'P' :: '<' :: cs => readName? cs
  | '?' :: '<' :: cs => readName? cs
  | '?' :: cs => readFlags? {} true false cs
  | _ => some (.opening .numbered {}, cs)

/-! ### Repetitions -/

/-- A repetition, made lazy by a question mark. -/
def withLaziness (m : Mode) (least : Nat) (most : Option Nat) (cs : List Char) : Reading Token :=
  match m.skip cs with
  | '?' :: cs => some (.repetition least most true, cs)
  | _ => some (.repetition least most false, cs)

/-- A decimal number of at most 32 bits. Blanks may stand around it in any mode. -/
def readDecimal? (m : Mode) (cs : List Char) : Reading Nat :=
  let (ds, rest) := m.take Char.isDigit cs.length (cs.dropWhile Text.isBlank)
  let n := Text.numberOf 10 ds
  if ds.isEmpty ∨ n ≥ Nat.pow 2 32 then none else some (n, rest.dropWhile Text.isBlank)

/-- The upper bound of a counted repetition and its closing brace. -/
def readMost? (m : Mode) (least : Nat) (cs : List Char) : Reading Token :=
  match readDecimal? m cs with
  | some (most, '}' :: cs) => if least ≤ most then withLaziness m least (some most) cs else none
  | _ => none

/-- The bounds of a counted repetition, after its opening brace. -/
def readCount? (m : Mode) (cs : List Char) : Reading Token :=
  match readDecimal? m (m.skip cs) with
  | some (least, '}' :: cs) => withLaziness m least (some least) cs
  | some (least, ',' :: cs) =>
    match m.skip cs with
    | '}' :: cs => withLaziness m least none cs
    | cs => readMost? m least cs
  | _ => none

/-! ### Tokens -/

/-- The token that an escape is. -/
def ofEscape : Escape → Token
  | .char c => .set (.single c) 0
  | .set s => .set s 0
  | .anchor a => .anchor a

/-- The token at the beginning of a text, where nothing is left out. -/
def readHere? (m : Mode) : List Char → Reading Token
  | [] => none
  | '\\' :: cs => (Escape.read? m cs).map fun (e, cs) => (ofEscape e, cs)
  | '[' :: cs => (ClassPart.read? m cs).map fun (p, cs) => (.set p.set p.depth, cs)
  | '(' :: cs => readOpening? m cs
  | ')' :: cs => some (.closing, cs)
  | '|' :: cs => some (.bar, cs)
  | '.' :: cs => if m.ascii then none else some (.dot, cs)
  | '^' :: cs => some (.caret, cs)
  | '$' :: cs => some (.dollar, cs)
  | '*' :: cs => withLaziness {} 0 none cs
  | '+' :: cs => withLaziness {} 1 none cs
  | '?' :: cs => withLaziness {} 0 (some 1) cs
  | '{' :: cs => readCount? m cs
  | c :: cs => some (.set (.single c) 0, cs)

/-- The first token of a text. -/
def read? (m : Mode) (cs : List Char) : Reading Token :=
  readHere? m (m.skip cs)

/-- All tokens of a text, in at most `n` steps. -/
def readUpTo? : Nat → Scope → List Char → Option (List Token)
  | n, s, cs =>
    if (s.mode.skip cs).isEmpty then some []
    else
      match n with
      | 0 => none
      | n + 1 => do
        let (t, cs) ← read? s.mode cs
        let s ← s.after? t
        return t :: (← readUpTo? n s cs)

/-- All tokens of a text. Each takes a character, so the length of the text bounds their
number. -/
def readAll? (cs : List Char) : Option (List Token) :=
  readUpTo? cs.length {} cs

end Token

end HttpRouting
