/-
Loading a file onto one table that is changed in place.

* `TableEntry.call`, `TableEntry.registerInPlace`: the call for the route of an entry, and its
  steps;
* `TableEntry.attempt`: these steps, with the fault noted if there is one;
* `registerAllInPlace`, `registerSoundInPlace`: the entries of a file in a row, up to the first
  fault and past it;
* `TableFile.routerInPlace`, `TableFile.checkInPlace`: the router of a file.

A fault does not undo the steps before it, and the entries after it meet what it leaves.
-/
import HttpRouting.Route.Calls
import HttpRouting.TableFile.Loading

namespace HttpRouting

/-! ### Registering -/

/-- The call for the route of an entry. -/
def TableEntry.call (e : TableEntry) (method : Method) : TableCall String :=
  match e.name with
  | some name => .addNamed name method e.path e.label
  | none => .add method e.path e.label

/-- Makes the method of an entry, and then calls for its route. -/
def TableEntry.registerInPlace (e : TableEntry) : RouteTable.InPlace String (List Nat) := do
  (e.call (← MonadExcept.ofExcept (Route.methodOf e.method))).inPlace

/-- Registers the route of an entry, or notes the fault. -/
def TableEntry.attempt (e : TableEntry) (index : Nat) :
    StateM (RouteTable String) (List EntryFault) := fun t =>
  match e.registerInPlace.run t with
  | .ok _ t => ([], t)
  | .error cause t => ([⟨index, e.name, cause⟩], t)

/-- Registers the routes of entries, the first of which has the given index, up to the first
fault. -/
def registerAllInPlace (index : Nat) : List TableEntry → EStateM EntryFault (RouteTable String) Unit
  | [] => return
  | e :: es => do
    let _ ← e.registerInPlace.adaptExcept fun cause => (⟨index, e.name, cause⟩ : EntryFault)
    registerAllInPlace (index + 1) es

/-- Registers the routes of all entries, the first of which has the given index, and notes the
faults. -/
def registerSoundInPlace (index : Nat) :
    List TableEntry → StateM (RouteTable String) (List EntryFault)
  | [] => return []
  | e :: es => return (← e.attempt index) ++ (← registerSoundInPlace (index + 1) es)

/-! ### Loading -/

namespace TableFile

/-- The router of a file, up to the first fault. -/
def routerInPlace (f : TableFile) : Except LoadError (Router String) := do
  let registry ← f.registry.mapError .types
  match (registerAllInPlace 0 f.entries).run (.empty registry) with
  | .ok _ t => (Router.ofTable t f.config).mapError .router
  | .error fault _ => throw (.entry fault)

/-- The router of a file, or all entries at fault. -/
def checkInPlace (f : TableFile) : Except LoadError (Router String) := do
  let registry ← f.registry.mapError .types
  match (registerSoundInPlace 0 f.entries).run (.empty registry) with
  | ([], t) => (Router.ofTable t f.config).mapError .router
  | (faults, _) => throw (.entries faults)

end TableFile

end HttpRouting
