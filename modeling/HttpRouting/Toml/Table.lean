/-
Tables of TOML while they grow.

* `Node`: a value, a table or an array of tables, as far as it was written;
* `Entries.within`: changes a table deep inside, through tables that are made on the way;
* `Entries.assign`: gives a key its value;
* `Entries.declare`, `Entries.append`: the two kinds of headers;
* `Entries.toFields`: the data of a table.

How a table came to be decides how it may grow, so that no part is written twice.
-/
import HttpRouting.Data
import HttpRouting.Toml.Key

namespace HttpRouting.Toml

/-- How a table came to be. -/
inductive Origin where
  /-- A header named a table below it. -/
  | implied
  /-- A key with points went through it. -/
  | dotted
  /-- A header named it, or it is the whole text. -/
  | declared
deriving DecidableEq, Repr

/-- A part of a text. -/
inductive Node where
  | value (d : Data)
  | table (origin : Origin) (entries : List (String × Node))
  /-- An array of tables, of which the last may still grow. -/
  | tables (earlier : List Data) (last : List (String × Node))

/-- The entries of a table, in the order in which they were written. -/
abbrev Entries := List (String × Node)

/-! ### Data -/

mutual

/-- The data of a part. -/
def Node.toData : Node → Data
  | .value d => d
  | .table _ entries => .record (toFields entries)
  | .tables earlier last => .list (earlier ++ [.record (toFields last)])

/-- The data of entries. -/
def toFields : List (String × Node) → List (String × Data)
  | [] => []
  | (key, node) :: entries => (key, node.toData) :: toFields entries

end

namespace Entries

/-- The part with a key. -/
def find? (es : Entries) (key : String) : Option Node :=
  (List.find? (·.1 == key) es).map (·.2)

/-- The entries with a part for a key: in its place if there is one, else at the end. -/
def put (key : String) (node : Node) : Entries → Entries
  | [] => [(key, node)]
  | (k, n) :: es => if k = key then (key, node) :: es else (k, n) :: put key node es

/-! ### Growing -/

/-- Changes the table at the end of a path, given how it came to be. Tables on the way that do
not exist are made; an array of tables stands for its last one. A key with points may not go
through a table that has a header. -/
def within (dotted : Bool) (change : Origin → Entries → Option Entries) :
    List String → Origin → Entries → Option Entries
  | [], origin, es => change origin es
  | key :: keys, _, es =>
    match es.find? key with
    | none => do
      let origin := if dotted then .dotted else .implied
      let inner ← within dotted change keys origin []
      return es.put key (.table origin inner)
    | some (.table origin inner) =>
      if dotted && origin = .declared then none
      else do
        let inner ← within dotted change keys origin inner
        return es.put key (.table origin inner)
    | some (.tables earlier last) => do
      let last ← within dotted change keys .declared last
      return es.put key (.tables earlier last)
    | some (.value _) => none

/-- Gives the key of a path its value. Only a table that keys with points made takes values
through such a key. -/
def assign (p : KeyPath) (d : Data) (origin : Origin) (es : Entries) : Option Entries :=
  within true
    (fun origin es =>
      if p.tables.isEmpty == (origin == .dotted) then none
      else if (es.find? p.key).isSome then none
      else some (es.put p.key (.value d)))
    p.tables origin es

/-- The entries with a table that a header names. -/
def declare (p : KeyPath) (es : Entries) : Option Entries :=
  within false
    (fun _ es =>
      match es.find? p.key with
      | none => some (es.put p.key (.table .declared []))
      | some (.table .implied inner) => some (es.put p.key (.table .declared inner))
      | some _ => none)
    p.tables .declared es

/-- The entries with another table in the array that a header names. -/
def append (p : KeyPath) (es : Entries) : Option Entries :=
  within false
    (fun _ es =>
      match es.find? p.key with
      | none => some (es.put p.key (.tables [] []))
      | some (.tables earlier last) =>
        some (es.put p.key (.tables (earlier ++ [.record (toFields last)]) []))
      | some _ => none)
    p.tables .declared es

/-- The data of a table. -/
def toData (es : Entries) : Data :=
  .record (toFields es)

/-- The data of a table in braces, from its keys and values. -/
def ofPairs? (pairs : List (KeyPath × Data)) : Option Data :=
  (pairs.foldlM (fun es (p, d) => assign p d .declared es) []).map toData

end Entries

end HttpRouting.Toml
