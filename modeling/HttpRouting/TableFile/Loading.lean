/-
Making a router of a file.

* `EntryFault`: an entry that cannot be registered;
* `LoadError`: why a file makes no router, and the wording;
* `TableFile.registry`: the built-in types with those of the file;
* `TableEntry.register`: registers the route of an entry;
* `TableFile.table`, `TableFile.router`: the table and the router, up to the first fault;
* `TableFile.check`: the router, or all entries at fault.
-/
import HttpRouting.AttributeType.Builder
import HttpRouting.Router.Basic
import HttpRouting.TableFile.Basic

namespace HttpRouting

/-! ### Faults -/

/-- An entry that cannot be registered. -/
structure EntryFault where
  index : Nat
  name : Option String
  cause : RouteError
deriving DecidableEq, Repr

/-- The wording. -/
def EntryFault.message (f : EntryFault) : String :=
  "Route #" ++ toString f.index ++ (f.name.map fun name => " (" ++ name ++ ")").getD "" ++ ": " ++
    f.cause.message

/-- Why a file makes no router. -/
inductive LoadError where
  | types (cause : TypeError)
  | entry (fault : EntryFault)
  | entries (faults : List EntryFault)
  | router (cause : RouterError)
deriving DecidableEq, Repr

/-- The wording. -/
def LoadError.message : LoadError → String
  | types cause => "Invalid types: " ++ cause.message
  | entry fault => fault.message
  | entries faults => toString faults.length ++ " route(s) failed to compile"
  | router cause => cause.message

/-! ### Registering -/

/-- The built-in types with those of a file. -/
def TableFile.registry (f : TableFile) : Except TypeError TypeRegistry :=
  (f.types.foldl (fun b (name, pattern) => b.add name pattern) RegistryBuilder.builtIn).build

/-- The table with the route of an entry appended. -/
def TableEntry.register (e : TableEntry) (t : RouteTable String) :
    Except RouteError (RouteTable String) := do
  let method ← Route.methodOf e.method
  let (t, _) ← t.add method e.path e.label e.name
  return t

/-- The table with the routes of entries appended, the first of which has the given index, up to
the first fault. -/
def registerAll (t : RouteTable String) (index : Nat) :
    List TableEntry → Except EntryFault (RouteTable String)
  | [] => .ok t
  | e :: es =>
    match e.register t with
    | .ok t => registerAll t (index + 1) es
    | .error cause => .error ⟨index, e.name, cause⟩

/-- The table with the routes of the sound entries appended, and the faults of the others. -/
def registerSound (t : RouteTable String) (index : Nat) :
    List TableEntry → RouteTable String × List EntryFault
  | [] => (t, [])
  | e :: es =>
    match e.register t with
    | .ok t => registerSound t (index + 1) es
    | .error cause =>
      let (t, faults) := registerSound t (index + 1) es
      (t, ⟨index, e.name, cause⟩ :: faults)

/-! ### Loading -/

namespace TableFile

/-- The table of a file, up to the first fault. -/
def table (f : TableFile) : Except LoadError (RouteTable String) := do
  let registry ← f.registry.mapError .types
  (registerAll (.empty registry) 0 f.entries).mapError .entry

/-- The router of a file, up to the first fault. -/
def router (f : TableFile) : Except LoadError (Router String) := do
  (Router.ofTable (← f.table) f.config).mapError .router

/-- The router of a file, or all entries at fault. -/
def check (f : TableFile) : Except LoadError (Router String) := do
  let registry ← f.registry.mapError .types
  match registerSound (.empty registry) 0 f.entries with
  | (t, []) => (Router.ofTable t f.config).mapError .router
  | (_, faults) => throw (.entries faults)

end TableFile

end HttpRouting
