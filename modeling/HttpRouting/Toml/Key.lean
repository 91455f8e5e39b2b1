/-
Keys of TOML.

* `KeyPath`: keys between points;
* `readKey?`: a bare or quoted key, and what follows it;
* `KeyPath.read?`: a path of keys, and what follows it and the blanks after it.
-/
import HttpRouting.Toml.Quoted

namespace HttpRouting.Toml

/-- A character of a key without quotes. -/
def isBare (c : Char) : Bool :=
  c.val < 128 && c.isAlphanum || c == '_' || c == '-'

/-- A key, and what follows it. -/
def readKey? (cs : List Char) : Option (String × List Char) :=
  if cs.head? == some '"' || cs.head? == some '\'' then readLineQuoted? cs
  else
    match cs.takeWhile isBare with
    | [] => none
    | key => some (String.ofList key, cs.dropWhile isBare)

/-- Keys between points: those of the tables around, and the last one. -/
structure KeyPath where
  tables : List String
  key : String
deriving DecidableEq, Repr

namespace KeyPath

/-- Every key of a path. -/
def keys (p : KeyPath) : List String :=
  p.tables ++ [p.key]

/-- A path of at most `n` keys, and what follows it. -/
def readUpTo? : Nat → List Char → Option (KeyPath × List Char)
  | 0, _ => none
  | n + 1, cs => do
    let (key, rest) ← readKey? (skipGaps cs)
    match skipGaps rest with
    | '.' :: rest => do
      let (p, rest) ← readUpTo? n rest
      return ({ p with tables := key :: p.tables }, rest)
    | rest => return (⟨[], key⟩, rest)

/-- The number of keys that a path may have. -/
def maxKeys : Nat := 80

/-- A path of keys, and what follows it. -/
def read? (cs : List Char) : Option (KeyPath × List Char) :=
  readUpTo? maxKeys cs

end KeyPath

end HttpRouting.Toml
