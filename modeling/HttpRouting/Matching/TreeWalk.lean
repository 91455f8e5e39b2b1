/-
Matching all routes at once by walking their merged forest.

* `Walk`: the places and positions visited, the routes reached, and the best route so far;
* `Arena.visit`: walks from a node at a position of the path;
* `Arena.find`: the first route with the method that the walk reaches.

A node is visited once per position, and nodes that lead to no better route are passed over. The
first way to a leaf is the one whose captures count.
-/
import HttpRouting.Forest.Arena

namespace HttpRouting

/-- What a walk has met. -/
structure Walk where
  /-- The nodes visited, each with the number of characters left of the path. -/
  visited : Std.HashSet (Nat × Nat) := ∅
  /-- The routes whose path matches, with the captures of the first way to them. -/
  reached : List (Nat × Method × Captures) := []
  /-- The first route reached that has the method of the request. -/
  best : Option Nat := none

namespace Walk

/-- Whether a node can still lead to a better route. -/
def promises (w : Walk) (first : Option Nat) : Bool :=
  match w.best, first with
  | some best, some first => first ≤ best
  | some _, none => false
  | none, _ => true

/-- The walk after the leaf of a route, at the end of the path. -/
def reach (w : Walk) (method : String) (index : Nat) (m : Method) (captures : Captures) : Walk :=
  if w.reached.any (·.1 == index) then w
  else
    { w with
      reached := (index, m, captures) :: w.reached
      best := if m.name = method ∧ w.best.all (index < ·) then some index else w.best }

/-- What the walk found. -/
def outcome (w : Walk) : Outcome :=
  match w.best.bind fun best => w.reached.find? (·.1 == best) with
  | some (index, _, captures) => .matched index captures
  | none =>
    (w.reached.foldl (fun (a : AllowedMethods) (index, m, _) => a.record m index) {}).outcome

end Walk

namespace Arena

/-- Walks from the node at the place `id`, with the captures so far, last first. Children stand
after their parents, so the walk ends. -/
def visit (a : Arena) (method : String) (id : Nat) (rest : List Char) (bound : Captures)
    (w : Walk) : Walk :=
  match a.nodes[id]? with
  | none => w
  | some node =>
    if !w.promises node.first || w.visited.contains (id, rest.length) then w
    else
      let w := { w with visited := w.visited.insert (id, rest.length) }
      let below (rest : List Char) (bound : Captures) (w : Walk) : Walk :=
        node.children.foldl
          (fun w child =>
            if _h : id < child ∧ child < a.nodes.size then visit a method child rest bound w
            else w) w
      match node.action with
      | .leaf index m => if rest.isEmpty then w.reach method index m bound.reverse else w
      | .literal text =>
        match stripPrefix? text rest with
        | some rest => below rest bound w
        | none => w
      | .capture name type =>
        (Program.firstEnd (fun n w =>
          if type.accepts (rest.take n) then
            (false, below (rest.drop n) ((name, String.ofList (rest.take n)) :: bound) w)
          else (false, w)) rest.length w).2
      | .optional program =>
        (program.run (fun rest bound w => (false, below rest bound w)) 0 rest bound (∅, w)).2.2
termination_by a.nodes.size - id

/-- Walks from the roots. -/
def walk (a : Arena) (method : String) (path : List Char) : Walk :=
  a.roots.foldl (fun w root => a.visit method root path [] w) {}

/-- The first route with the method whose path matches. -/
def find (a : Arena) (method path : String) : Outcome :=
  (a.walk method path.toList).outcome

end Arena

end HttpRouting
