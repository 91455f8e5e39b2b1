/-
Texts in TOML.

* `Statement`: a line of a text that says something;
* `Statement.readAll?`: the statements of a text;
* `Statement.toEntries?`: the table that statements describe;
* `parse?`: the data of a text.
-/
import HttpRouting.Toml.Value

namespace HttpRouting.Toml

/-- A line that says something: a key with its value, the header of a table, or the header of
another table in an array. -/
inductive Statement where
  | assignment (p : KeyPath) (d : Data)
  | header (p : KeyPath)
  | element (p : KeyPath)

namespace Statement

/-! ### Reading -/

/-- A key with its value, and what follows it. -/
def readAssignment? (cs : List Char) : Option (Statement × List Char) := do
  let (p, rest) ← KeyPath.read? cs
  match rest with
  | '=' :: rest => do
    let (d, rest) ← readValue? (skipGaps rest)
    return (assignment p d, rest)
  | _ => none

/-- A statement, and what follows it. -/
def read? : List Char → Option (Statement × List Char)
  | '[' :: '[' :: cs => do
    match ← KeyPath.read? cs with
    | (p, ']' :: ']' :: rest) => return (element p, rest)
    | _ => none
  | '[' :: cs => do
    match ← KeyPath.read? cs with
    | (p, ']' :: rest) => return (header p, rest)
    | _ => none
  | cs => readAssignment? cs

/-- At most `n` statements, each in a line of its own, up to the end of the text. -/
def readUpTo? : Nat → List Char → Option (List Statement)
  | 0, _ => none
  | n + 1, cs =>
    match skipFiller cs with
    | [] => some []
    | rest => do
      let (s, rest) ← read? rest
      return s :: (← readUpTo? n (← endLine? rest))

/-- The statements of a text. Each takes a character, so the length of the text bounds their
number. A byte order mark in front does not count. -/
def readAll? : List Char → Option (List Statement)
  | '\ufeff' :: cs => readUpTo? (cs.length + 1) cs
  | cs => readUpTo? (cs.length + 1) cs

/-! ### What the statements describe -/

/-- The entries and the table of the last header, after a statement. -/
def extend? : List String × Entries → Statement → Option (List String × Entries)
  | (table, es), assignment p d => (es.within false (Entries.assign p d) table .declared).map (table, ·)
  | (_, es), header p => (es.declare p).map (p.keys, ·)
  | (_, es), element p => (es.append p).map (p.keys, ·)

/-- The table that statements describe. -/
def toEntries? (ss : List Statement) : Option Entries :=
  (ss.foldlM extend? ([], [])).map (·.2)

end Statement

/-- The data of a text. -/
def parse? (text : String) : Option Data := do
  let statements ← Statement.readAll? text.toList
  return (← Statement.toEntries? statements).toData

end HttpRouting.Toml
