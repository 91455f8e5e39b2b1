/-
Sets of code points.

* `CodeRange`: a closed interval, the entry of a character table;
* `CodeRange.contains`: membership of a character;
* `Edges`: a set by the points where membership changes;
* `Edges.contains`: membership of a code point;
* `Edges.combine`: the set whose members two sets decide;
* `Edges.ofRanges`, `Edges.toRanges`: a set by its intervals.
-/

namespace HttpRouting.Text

/-! ### Intervals -/

/-- A closed interval of code points, first and last. -/
abbrev CodeRange := Nat × Nat

/-- Whether a character's code point lies in the interval. -/
def CodeRange.contains (r : CodeRange) (c : Char) : Bool :=
  r.1 ≤ c.toNat && c.toNat ≤ r.2

/-! ### Sets -/

/-- A set of code points: those at which membership changes, in increasing order. The first one
begins the first interval. -/
abbrev Edges := List Nat

namespace Edges

/-- Whether a set holds a code point: the number of its edges up to the point is odd. -/
def contains : Edges → Nat → Bool
  | [], _ => false
  | e :: es, n => if n < e then false else !contains es n

/-- The set of some intervals in increasing order, of which no two touch. -/
def ofRanges (rs : List CodeRange) : Edges :=
  rs.flatMap fun r => [r.1, r.2 + 1]

/-- The intervals of a set, in increasing order. No two touch. -/
def toRanges : Edges → List CodeRange
  | a :: b :: es => (a, b - 1) :: toRanges es
  | _ => []

/-- Every code point of a character: all but those of surrogates. -/
def all : Edges := [0, 0xD800, 0xE000, 0x110000]

/-- The edges from a point on. `now` is what holds before it, `next` what holds from there on. -/
def edgeAt (p : Nat) (now next : Bool) (rest : Edges) : Edges :=
  if now = next then rest else p :: rest

/-- The edges of a set after those of two sets that decide about it, which are in the states `x`
and `y`, in at most `n` steps. -/
def combineFrom (f : Bool → Bool → Bool) : Nat → Bool → Bool → Edges → Edges → Edges
  | 0, _, _, _, _ => []
  | _ + 1, _, _, [], [] => []
  | n + 1, x, y, a :: as, [] => edgeAt a (f x y) (f (!x) y) (combineFrom f n (!x) y as [])
  | n + 1, x, y, [], b :: bs => edgeAt b (f x y) (f x !y) (combineFrom f n x (!y) [] bs)
  | n + 1, x, y, a :: as, b :: bs =>
    if a < b then edgeAt a (f x y) (f (!x) y) (combineFrom f n (!x) y as (b :: bs))
    else if b < a then edgeAt b (f x y) (f x !y) (combineFrom f n x (!y) (a :: as) bs)
    else edgeAt a (f x y) (f (!x) !y) (combineFrom f n (!x) (!y) as bs)

/-- The set of the points for which `f` decides so, from their membership in two sets. A point in
neither must not be in it. Each step passes an edge, so the number of edges bounds the steps. -/
def combine (f : Bool → Bool → Bool) (as bs : Edges) : Edges :=
  combineFrom f (as.length + bs.length + 1) false false as bs

/-- The points of either set. -/
def union (as bs : Edges) : Edges :=
  combine (· || ·) as bs

/-- The points of any of several sets. -/
def unionAll (sets : List Edges) : Edges :=
  sets.foldr union []

/-- The code points of characters that are not in a set. -/
def compl (as : Edges) : Edges :=
  combine (fun x y => y && !x) as all

end Edges

end HttpRouting.Text
