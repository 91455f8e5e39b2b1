/-
Tables of routes in the order of their registration.

* `RouteTable`: routes, an index of their names, and the registry for new definitions;
* `RouteTable.push`: appends a route, unless its name is taken;
* `RouteTable.add`, `RouteTable.addMethods`: append routes made from a definition;
* `RouteTable.byName?`: the route with a name;
* `RouteTable.methods`: the methods in the order of their first route;
* `routes_push`: a route is appended and nothing else changes.
-/
import HttpRouting.Route.Basic

namespace HttpRouting

/-- Routes in the order of their registration, with an index of their names. -/
structure RouteTable (α : Type) where
  registry : TypeRegistry
  routes : List (Route α) := []
  names : List (String × Nat) := []

namespace RouteTable

variable {α : Type}

/-- The table without routes. -/
def empty (registry : TypeRegistry) : RouteTable α := { registry }

/-- The number of routes. -/
def size (t : RouteTable α) : Nat :=
  t.routes.length

/-! ### Looking up -/

/-- The index of the route with a name. -/
def indexOf? (t : RouteTable α) (name : String) : Option Nat :=
  (t.names.find? (·.1 == name)).map (·.2)

/-- The route at an index. -/
def get? (t : RouteTable α) (index : Nat) : Option (Route α) :=
  t.routes[index]?

/-- The route with a name. -/
def byName? (t : RouteTable α) (name : String) : Option (Route α) :=
  (t.indexOf? name).bind t.get?

/-- The methods of the routes, in the order of their first routes. -/
def methods (t : RouteTable α) : List Method :=
  t.routes.foldl (fun ms r => if ms.contains r.method then ms else ms ++ [r.method]) []

/-- The URI of the route with a name, after a prefix. -/
def uri (t : RouteTable α) (name : String) (values : Values) (pathPrefix : String) :
    Except UriError String :=
  match t.byName? name with
  | some r => r.uri values pathPrefix
  | none => .error (.unknownRoute name)

/-! ### Registering -/

/-- The table with a route appended, and the index of the route. -/
def push (t : RouteTable α) (r : Route α) : Except RouteError (RouteTable α × Nat) :=
  match r.name with
  | none => .ok ({ t with routes := t.routes ++ [r] }, t.size)
  | some name =>
    if (t.indexOf? name).isSome then .error (.duplicateName name)
    else .ok ({ t with routes := t.routes ++ [r], names := t.names ++ [(name, t.size)] }, t.size)

/-- The table with the route of a definition appended, and the index of the route. -/
def add (t : RouteTable α) (method : Method) (definition : String) (handler : α)
    (name : Option String := none) : Except RouteError (RouteTable α × Nat) := do
  t.push (← Route.ofDefinition t.registry method definition handler name)

/-- The table with several routes appended, and their indices. -/
def pushAll (t : RouteTable α) : List (Route α) → Except RouteError (RouteTable α × List Nat)
  | [] => .ok (t, [])
  | r :: rs => do
    let (t, index) ← t.push r
    let (t, indices) ← t.pushAll rs
    return (t, index :: indices)

/-- The table with one route per method appended, all of one definition, and their indices. -/
def addMethods (t : RouteTable α) (methods : List Method) (definition : String) (handler : α) :
    Except RouteError (RouteTable α × List Nat) := do
  t.pushAll (← methods.mapM fun m => Route.ofDefinition t.registry m definition handler)

/-! ### Lemmas -/

/-- A route is appended at the end, and its index is the number of routes before it. -/
theorem routes_push {t t' : RouteTable α} {r : Route α} {index : Nat}
    (h : t.push r = .ok (t', index)) :
    t'.routes = t.routes ++ [r] ∧ index = t.size ∧ t'.registry = t.registry := by
  rw [push] at h
  split at h
  · cases h
    exact ⟨rfl, rfl, rfl⟩
  · split at h
    · exact nomatch h
    · cases h
      exact ⟨rfl, rfl, rfl⟩

end RouteTable

end HttpRouting
