/-
How deep the parts of a table nest in the texts of its patterns.

* `AttributeType.nesting`: the groups and the repetitions in the pattern of a type;
* `Path.nesting`: the optional rests of a path, and in them the types of its attributes;
* `Route.nesting`, `Route.rounds`: how deep optional rests and groups nest in a route, and how deep
  repetitions do;
* `Forest.forkDepth`: the literals on a way to a leaf after which several trees go on;
* `RouteTable.patternTexts`: the texts that a strategy has to read.

Only patterns limit how deep their parts nest. The other strategies have no texts to read.
-/
import HttpRouting.Matching.Matcher

namespace HttpRouting

/-! ### Types -/

namespace AttributeType

/-- How deep groups and repetitions nest in the pattern of a type, inside the group in which it is
probed. -/
def nesting (perGroup perRound : Nat) (t : AttributeType) : Nat :=
  ((Phrase.ofText? (groupedText t.pattern)).map (·.nesting perGroup perRound)).getD 0

/-- How deep groups nest in the pattern of a type. The group around it does not count. -/
def groupDepth (t : AttributeType) : Nat :=
  t.nesting 1 0 - 1

/-- How deep repetitions nest in the pattern of a type. -/
def roundDepth (t : AttributeType) : Nat :=
  t.nesting 0 1

end AttributeType

/-! ### Routes -/

/-- How deep the optional rests of a path nest, and the types of its attributes in them. -/
def Path.nesting (perOptional : Nat) (ofType : AttributeType → Nat) (registry : TypeRegistry) :
    Path → Nat
  | .empty => 0
  | .literal _ next => next.nesting perOptional ofType registry
  | .attr _ typeName next =>
    max (ofType (registry.typeOf typeName)) (next.nesting perOptional ofType registry)
  | .optional inner => inner.nesting perOptional ofType registry + perOptional

namespace Route

variable {α : Type}

/-- How deep the optional rests of a route and the groups of its types nest together. -/
def nesting (r : Route α) : Nat :=
  r.path.nesting 1 AttributeType.groupDepth r.registry

/-- How deep the repetitions of the types of a route nest. -/
def rounds (r : Route α) : Nat :=
  r.path.nesting 0 AttributeType.roundDepth r.registry

end Route

/-! ### Trees -/

namespace Forest

/-- The number of trees in a row. -/
def width : Forest → Nat
  | empty => 0
  | leaf _ _ right => right.width + 1
  | branch _ _ right => right.width + 1

/-- How many literals on the way to a leaf have several trees below them. From the first attribute
on, every way is written on its own. -/
def forkDepth : Forest → Nat
  | empty => 0
  | leaf _ _ right => right.forkDepth
  | branch (.literal _) below right =>
    max (below.forkDepth + if below.width ≤ 1 then 0 else 1) right.forkDepth
  | branch _ _ right => right.forkDepth

end Forest

/-! ### Tables -/

namespace RouteTable

variable {α : Type}

/-- How many literals nest in the pattern of a strategy. -/
def forkDepth (t : RouteTable α) : Strategy → Nat
  | .treePattern => (Forest.ofTable t).forkDepth
  | _ => 0

/-- The texts that a strategy has to read. -/
def patternTexts (t : RouteTable α) : Strategy → List (List Char)
  | .multiPattern => t.routes.map fun r => anchored (pathNotation r.registry r.path 0)
  | .singlePattern =>
    match (routeAlternatives 0 0 t.routes).map (·.1) with
    | [] => []
    | texts => [anchored (alternativeGroup texts)]
  | .treePattern =>
    match (forestAlternatives 0 (Forest.ofTable t)).1 with
    | [] => []
    | texts => [anchored ("(?:".toList ++ alternation texts ++ [')'])]
  | .linear | .tree => []

end RouteTable

end HttpRouting
