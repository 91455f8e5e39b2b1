/-
The routes of a table merged along their common beginnings.

* `Segment`: a part of a path, the optional rest being one part;
* `Forest`: trees of segments in a row, with a leaf for each route;
* `Forest.insert`: adds a route. Only the last tree of a row can take it in, so that the leaves
  stay in the order of the routes;
* `Forest.ofTable`: the forest of a table;
* `Forest.chains`: the ways from a root to a leaf, from left to right;
* `Forest.leaves`, `Forest.minLeaf?`, `Forest.size`: the routes below, the first of them, and the
  number of nodes.
-/
import HttpRouting.Route.Table

namespace HttpRouting

/-! ### Segments -/

/-- A part of a route path. -/
inductive Segment where
  | literal (text : String)
  | attr (name : String) (type : AttributeType)
  | optional (inner : Path) (registry : TypeRegistry)
deriving DecidableEq

/-- The parts of a path. -/
def Segment.ofPath (registry : TypeRegistry) : Path → List Segment
  | .empty => []
  | .literal text next => literal text :: ofPath registry next
  | .attr name typeName next => attr name (registry.typeOf typeName) :: ofPath registry next
  | .optional inner => [optional inner registry]

/-! ### Forests -/

/-- A row of trees. `branch` is a tree with the segment at its root, the row below it, and the
row to its right. -/
inductive Forest where
  | empty
  | leaf (index : Nat) (method : Method) (right : Forest)
  | branch (segment : Segment) (below right : Forest)
deriving DecidableEq

namespace Forest

/-- The row of one tree without forks. -/
def chain (index : Nat) (method : Method) : List Segment → Forest
  | [] => leaf index method empty
  | s :: ss => branch s (chain index method ss) empty

/-- The row with a route added. The last tree takes it in if the segments agree; else the route
becomes the new last tree. -/
def insert (index : Nat) (method : Method) : List Segment → Forest → Forest
  | ss, empty => chain index method ss
  | ss, leaf i m right => leaf i m (insert index method ss right)
  | [], branch s below right => branch s below (insert index method [] right)
  | t :: ts, branch s below empty =>
    if s = t then branch s (insert index method ts below) empty
    else branch s below (chain index method (t :: ts))
  | t :: ts, branch s below right => branch s below (insert index method (t :: ts) right)

/-- The forest with the routes of a list added, the first of which has the given index. -/
def insertAll {α : Type} (f : Forest) (index : Nat) : List (Route α) → Forest
  | [] => f
  | r :: rs =>
    insertAll (f.insert index r.method (Segment.ofPath r.registry r.path)) (index + 1) rs

/-- The forest of a table. -/
def ofTable {α : Type} (t : RouteTable α) : Forest :=
  empty.insertAll 0 t.routes

/-! ### Views -/

/-- The ways from a root to a leaf, from left to right. -/
def chains : Forest → List (List Segment × Nat × Method)
  | empty => []
  | leaf index method right => ([], index, method) :: right.chains
  | branch s below right =>
    below.chains.map (fun (ss, e) => (s :: ss, e)) ++ right.chains

/-- The routes of a row, from left to right. -/
def leaves : Forest → List Nat
  | empty => []
  | leaf index _ right => index :: right.leaves
  | branch _ below right => below.leaves ++ right.leaves

/-- The first route of a row. -/
def minLeaf? (f : Forest) : Option Nat :=
  f.leaves.min?

/-- The number of nodes. -/
def size : Forest → Nat
  | empty => 0
  | leaf _ _ right => right.size + 1
  | branch _ below right => below.size + right.size + 1

/-- The leaves are the ends of the chains. -/
theorem leaves_eq_map_chains (f : Forest) : f.leaves = f.chains.map (·.2.1) := by
  induction f with
  | empty => rfl
  | leaf _ _ _ ih => rw [leaves, chains, ih, List.map_cons]
  | branch _ _ _ ihb ihr =>
    rw [leaves, chains, ihb, ihr, List.map_append, List.map_map]
    rfl

/-- One tree without forks has one way to its leaf. -/
@[simp] theorem chains_chain (index : Nat) (method : Method) (ss : List Segment) :
    (chain index method ss).chains = [(ss, index, method)] := by
  induction ss with
  | nil => rfl
  | cons s ss ih => rw [chain, chains, ih]; rfl

/-! ### Text -/

/-- The text that shows a segment. -/
def describe : Segment → String
  | .literal text => "\"" ++ text ++ "\""
  | .attr name type => "\x7b" ++ name ++ ":" ++ type.name ++ "\x7d"
  | .optional inner _ => "[" ++ inner.render ++ "]"

/-- The lines that show a row, indented by its depth. -/
def lines (depth : Nat) : Forest → List String
  | empty => []
  | leaf index method right =>
    (indent depth ++ method.name ++ " -> #" ++ toString index) :: right.lines depth
  | branch s below right =>
    (indent depth ++ describe s) :: (below.lines (depth + 1) ++ right.lines depth)
where
  /-- Two blanks per level. -/
  indent (depth : Nat) : String :=
    String.ofList (List.replicate (2 * depth) ' ')

/-- The text that shows a forest, a line for each node. -/
def render (f : Forest) : String :=
  String.join ((f.lines 0).map (· ++ "\n"))

end Forest

end HttpRouting
