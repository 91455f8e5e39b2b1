/-
Matching with one regular expression per route.

* `RoutePattern`: the pattern of a route, with its method and the groups of its attributes;
* `PatternPerRoute.ofTable?`: the patterns of a table;
* `PatternPerRoute.find`: the first route with the method whose pattern matches the path.
-/
import HttpRouting.Matching.Notation

namespace HttpRouting

/-- The pattern of a route. -/
structure RoutePattern where
  method : Method
  text : List Char
  pattern : Pattern
  bindings : List Binding

/-- The patterns of the routes of a table. -/
structure PatternPerRoute where
  routes : List RoutePattern

namespace RoutePattern

/-- The pattern of a route, unless its text is refused. -/
def ofRoute? {α : Type} (r : Route α) : Option RoutePattern :=
  let text := anchored (pathNotation r.registry r.path 0)
  (Pattern.parse? text).map fun p => ⟨r.method, text, p, pathBindings r.path 0⟩

end RoutePattern

namespace PatternPerRoute

/-- The patterns of the routes of a table, unless one is refused. -/
def ofTable? {α : Type} (t : RouteTable α) : Option PatternPerRoute :=
  (t.routes.mapM RoutePattern.ofRoute?).map (⟨·⟩)

/-- Tries the routes from the one with the given index on. `allowed` holds what the routes before
allow. -/
def findFrom (method : String) (path : List Char) (allowed : AllowedMethods) (index : Nat) :
    List RoutePattern → Outcome
  | [] => allowed.outcome
  | r :: rest =>
    match r.pattern.match? path with
    | none => findFrom method path allowed (index + 1) rest
    | some m =>
      if r.method.name = method then .matched index (captureAll m r.bindings)
      else findFrom method path (allowed.record r.method index) (index + 1) rest

/-- The first route with the method whose pattern matches the path. -/
def find (p : PatternPerRoute) (method path : String) : Outcome :=
  findFrom method path.toList {} 0 p.routes

end PatternPerRoute

end HttpRouting
