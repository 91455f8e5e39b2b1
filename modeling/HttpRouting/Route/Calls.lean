/-
Calls that register routes.

* `TableCall`: a call, with what it is given;
* `TableCall.methods`, `TableCall.routes`: its methods, and the routes that it makes of them;
* `TableCall.apply`: the table after a call that succeeds;
* `RouteTable.pushInPlace`, `TableCall.inPlace`: the steps of a call on a table that is changed in
  place;
* `TableCall.after`, `TableCall.afterAll`: what is left of a table, whether calls succeed or fail.

In place, a fault does not undo the steps before it.
-/
import HttpRouting.Route.Table

namespace HttpRouting

variable {α : Type}

/-- A call that registers routes. -/
inductive TableCall (α : Type) where
  | add (method : Method) (definition : String) (handler : α)
  | addNamed (name : String) (method : Method) (definition : String) (handler : α)
  | addMethods (methods : List Method) (definition : String) (handler : α)
  | push (r : Route α)

namespace TableCall

/-- The methods of the routes, in the order in which they are given. -/
def methods : TableCall α → List Method
  | add method _ _ | addNamed _ method _ _ => [method]
  | addMethods methods _ _ => methods
  | push r => [r.method]

/-- The routes that a call makes. -/
def routes (registry : TypeRegistry) : TableCall α → Except RouteError (List (Route α))
  | add method definition handler =>
    (Route.ofDefinition registry method definition handler).map ([·])
  | addNamed name method definition handler =>
    (Route.ofDefinition registry method definition handler (some name)).map ([·])
  | addMethods methods definition handler =>
    methods.mapM fun m => Route.ofDefinition registry m definition handler
  | push r => .ok [r]

/-- The table after a call that succeeds, and the indices that the call returns. -/
def apply (t : RouteTable α) : TableCall α → Except RouteError (RouteTable α × List Nat)
  | add method definition handler =>
    (t.add method definition handler).map fun added => (added.1, [added.2])
  | addNamed name method definition handler =>
    (t.add method definition handler (some name)).map fun added => (added.1, [added.2])
  | addMethods methods definition handler => t.addMethods methods definition handler
  | push r => (t.push r).map fun added => (added.1, [added.2])

end TableCall

/-! ### Calls in place -/

namespace RouteTable

/-- Steps on a table that is changed in place, and may end in a fault. -/
abbrev InPlace (α β : Type) := EStateM RouteError (RouteTable α) β

/-- Notes the index of a name, unless the name is taken. -/
def reserve (name : String) (index : Nat) : InPlace α Unit := do
  if ((← get).indexOf? name).isSome then
    throw (.duplicateName name)
  modify fun t => { t with names := t.names ++ [(name, index)] }

/-- Notes the name of a route, and then stores the route. -/
def pushInPlace (r : Route α) : InPlace α Nat := do
  let index := (← get).size
  if let some name := r.name then
    reserve name index
  modify fun t => { t with routes := t.routes ++ [r] }
  return index

end RouteTable

namespace TableCall

/-- Makes the routes, and then stores them one by one. -/
def inPlace (call : TableCall α) : RouteTable.InPlace α (List Nat) := do
  let rs ← MonadExcept.ofExcept (call.routes (← get).registry)
  rs.mapM RouteTable.pushInPlace

/-- What a call leaves of a table. -/
def after (t : RouteTable α) (call : TableCall α) : RouteTable α :=
  match call.inPlace.run t with
  | .ok _ t' | .error _ t' => t'

/-- What calls in a row leave of a table. -/
def afterAll (t : RouteTable α) (calls : List (TableCall α)) : RouteTable α :=
  calls.foldl after t

end TableCall

end HttpRouting
