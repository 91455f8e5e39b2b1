/-
Tables of characters, written as texts.

* `Edges.ofTable`: the set that a text lists;
* `lookup?`: the entry of a table that has a name;
* `lookupTable?`: the set that the text of this entry lists.

A text lists in turn how many code points are outside and inside the set, in hexadecimal numbers.
The names are in the form of `normalName`.
-/
import HttpRouting.Text.CodeRange
import HttpRouting.Text.Digit

namespace HttpRouting.Text

/-- The edges that a text goes on with. `last` is the edge before, and `count` the number that the
digits up to here spell. -/
def Edges.ofDigits (last count : Nat) : List Char → Edges
  | [] => [last + count]
  | ' ' :: cs => (last + count) :: ofDigits (last + count) 0 cs
  | c :: cs => ofDigits last (16 * count + (digitValue? c).getD 0) cs

/-- The set that a text lists. -/
def Edges.ofTable (text : String) : Edges :=
  ofDigits 0 0 text.toList

/-- The entry of a table that has a name. -/
def lookup? {α : Type} (table : List (List String × α)) (name : String) : Option α :=
  (table.find? fun entry => entry.1.contains name).map (·.2)

/-- The set that the text of this entry lists. -/
def lookupTable? (table : List (List String × String)) (name : String) : Option Edges :=
  (lookup? table name).map .ofTable

end HttpRouting.Text
