/-
Values of TOML.

* `Atom.read?`: a number, a truth value, a date or a time, and what follows it;
* `readValue?`: a value, and what follows it;
* `maxDepth`: the number of arrays and tables in braces that may lie within each other.
-/
import HttpRouting.Toml.Moment
import HttpRouting.Toml.Number
import HttpRouting.Toml.Table

namespace HttpRouting.Toml

/-! ### Values without parts -/

/-- A character of a number, a truth value, a date or a time. -/
def isAtomChar (c : Char) : Bool :=
  isBare c || c == '+' || c == '.' || c == ':'

/-- The field of the record that stands for a date or a time. -/
def momentField : String :=
  "$__toml_private_datetime"

/-- The data of a number, a truth value, a date or a time. -/
def atom? (cs : List Char) : Option Data :=
  if cs == "true".toList || cs == "false".toList then some .scalar
  else
    match numeral? cs with
    | some .held => some .scalar
    | some .outOfRange => some .outOfRange
    | none => (Moment.ofText? cs).map fun m => .record [(momentField, .text m.render)]

/-- The characters of an atom, and what follows it. A blank may separate a date from a time. -/
def splitAtom (cs : List Char) : List Char × List Char :=
  let first := cs.takeWhile isAtomChar
  match cs.dropWhile isAtomChar with
  | ' ' :: rest =>
    if (Date.ofText? first).isSome && rest.head?.any (Text.isDigitOf 10) then
      (first ++ ' ' :: rest.takeWhile isAtomChar, rest.dropWhile isAtomChar)
    else (first, ' ' :: rest)
  | rest => (first, rest)

/-- A number, a truth value, a date or a time, and what follows it. -/
def readAtom? (cs : List Char) : Option (Data × List Char) :=
  let (atom, rest) := splitAtom cs
  (atom? atom).map (·, rest)

/-! ### Values with parts -/

/-- The number of arrays and tables in braces that may lie within each other. -/
def maxDepth : Nat := 80

mutual

/-- A value, and what follows it, in at most `n` steps and at most `depth` further levels. -/
def readValueIn? (depth : Nat) : Nat → List Char → Option (Data × List Char)
  | 0, _ => none
  | n + 1, '[' :: cs =>
    match depth with
    | 0 => none
    | depth + 1 => (readItemsIn? depth n (skipFiller cs)).map fun (ds, rest) => (.list ds, rest)
  | n + 1, '{' :: cs =>
    match depth with
    | 0 => none
    | depth + 1 => do
      let (pairs, rest) ← readPairsIn? depth n (skipFiller cs)
      return (← Entries.ofPairs? pairs, rest)
  | _ + 1, c :: cs =>
    if c == '"' || c == '\'' then (readQuoted? (c :: cs)).map fun (s, rest) => (.text s, rest)
    else readAtom? (c :: cs)
  | _ + 1, [] => none

/-- The items of an array up to its end, and what follows it. A comma may follow the last. -/
def readItemsIn? (depth : Nat) : Nat → List Char → Option (List Data × List Char)
  | 0, _ => none
  | _ + 1, ']' :: rest => some ([], rest)
  | n + 1, cs => do
    let (d, rest) ← readValueIn? depth n cs
    match skipFiller rest with
    | ',' :: rest => do
      let (ds, rest) ← readItemsIn? depth n (skipFiller rest)
      return (d :: ds, rest)
    | ']' :: rest => return ([d], rest)
    | _ => none

/-- The keys and values of a table in braces up to its end, and what follows it. A comma may
follow the last. -/
def readPairsIn? (depth : Nat) : Nat → List Char → Option (List (KeyPath × Data) × List Char)
  | 0, _ => none
  | _ + 1, '}' :: rest => some ([], rest)
  | n + 1, cs => do
    let (p, rest) ← KeyPath.read? cs
    match skipFiller rest with
    | '=' :: rest => do
      let (d, rest) ← readValueIn? depth n (skipFiller rest)
      match skipFiller rest with
      | ',' :: rest => do
        let (pairs, rest) ← readPairsIn? depth n (skipFiller rest)
        return ((p, d) :: pairs, rest)
      | '}' :: rest => return ([(p, d)], rest)
      | _ => none
    | _ => none

end

/-- A value, and what follows it. Each step takes a character, so the length of the text bounds
their number. -/
def readValue? (cs : List Char) : Option (Data × List Char) :=
  readValueIn? maxDepth (2 * cs.length) cs

end HttpRouting.Toml
