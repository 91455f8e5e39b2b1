/-
Forests laid out in an array.

* `ArenaNode`: what a node does, its children and the first route below it;
* `Arena`: the nodes in the order of a walk that meets parents first, and the roots;
* `Arena.ofForest`: the arena of a forest;
* `size_ofForest`: every node of the forest is laid out.
-/
import HttpRouting.Forest.Basic
import HttpRouting.Matching.Program

namespace HttpRouting

/-- What a node of an arena does. -/
inductive ArenaAction where
  | literal (text : List Char)
  | capture (name : String) (type : AttributeType)
  | optional (program : Program)
  | leaf (index : Nat) (method : Method)
deriving DecidableEq

/-- A node of an arena. The children are given by their places in the arena. -/
structure ArenaNode where
  action : ArenaAction
  children : List Nat
  /-- The first route below the node, if there is one. -/
  first : Option Nat
deriving DecidableEq

/-- Nodes, parents before children, and the places of the roots. -/
structure Arena where
  nodes : Array ArenaNode
  roots : List Nat
deriving DecidableEq

/-- What the node of a segment does. -/
def ArenaAction.ofSegment : Segment → ArenaAction
  | .literal text => literal text.toList
  | .attr name type => capture name type
  | .optional inner registry => optional (.optional (Program.ofPath registry inner))

namespace Arena

/-- The nodes of a row laid out from the place `start` on, and the places of its roots. -/
def layOut (start : Nat) : Forest → List ArenaNode × List Nat
  | .empty => ([], [])
  | .leaf index method right =>
    let (nodes, roots) := layOut (start + 1) right
    (⟨.leaf index method, [], some index⟩ :: nodes, start :: roots)
  | .branch s below right =>
    let (inner, children) := layOut (start + 1) below
    let (nodes, roots) := layOut (start + 1 + inner.length) right
    (⟨.ofSegment s, children, below.minLeaf?⟩ :: (inner ++ nodes), start :: roots)

/-- The arena of a forest. -/
def ofForest (f : Forest) : Arena :=
  let (nodes, roots) := layOut 0 f
  ⟨nodes.toArray, roots⟩

/-- The number of nodes. -/
def size (a : Arena) : Nat :=
  a.nodes.size

/-- Every node of a row is laid out. -/
theorem length_layOut (start : Nat) (f : Forest) : (layOut start f).1.length = f.size := by
  induction f generalizing start with
  | empty => rfl
  | leaf _ _ _ ih => simp [layOut, Forest.size, ih]
  | branch _ _ _ ihb ihr => simp [layOut, Forest.size, ihb, ihr]

/-- An arena has as many nodes as its forest. -/
theorem size_ofForest (f : Forest) : (ofForest f).size = f.size := by
  simp [size, ofForest, length_layOut]

end Arena

end HttpRouting
