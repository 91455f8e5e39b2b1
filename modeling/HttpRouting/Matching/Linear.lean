/-
Matching one route after the other.

* `LinearMatcher`: the method and the program of each route;
* `LinearMatcher.ofTable`: those of a table;
* `LinearMatcher.find`: the first route with the method whose program takes the path.
-/
import HttpRouting.Matching.Program
import HttpRouting.Route.Table

namespace HttpRouting

/-- The method and the program of each route. -/
structure LinearMatcher where
  routes : List (Method × Program)

namespace LinearMatcher

/-- The methods and programs of a table's routes. -/
def ofTable {α : Type} (t : RouteTable α) : LinearMatcher :=
  ⟨t.routes.map fun r => (r.method, Program.ofPath r.registry r.path)⟩

/-- Tries the routes from the one with the given index on. `allowed` holds what the routes before
allow. -/
def findFrom (method : String) (path : List Char) (allowed : AllowedMethods) (index : Nat) :
    List (Method × Program) → Outcome
  | [] => allowed.outcome
  | (m, p) :: rest =>
    match p.captures? path with
    | none => findFrom method path allowed (index + 1) rest
    | some captures =>
      if m.name = method then .matched index captures
      else findFrom method path (allowed.record m index) (index + 1) rest

/-- The first route with the method whose program takes the path. -/
def find (l : LinearMatcher) (method path : String) : Outcome :=
  findFrom method path.toList {} 0 l.routes

end LinearMatcher

end HttpRouting
