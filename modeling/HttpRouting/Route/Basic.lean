/-
Routes.

* `Route`: a method and a path with a handler, and the registry that types its attributes;
* `RouteError`: why a route cannot be made or registered, and the wording;
* `Route.ofDefinition`: the route of a definition text;
* `Route.ofPath`: the route of a path;
* `Route.describe`: the text that shows a route;
* `Route.ofDefinition_eq_ok_iff`: a definition makes a route exactly if it can be read.
-/
import HttpRouting.Method
import HttpRouting.Path.Parser
import HttpRouting.Path.Uri
import HttpRouting.Path.Validation

namespace HttpRouting

/-! ### Faults -/

/-- Why a route cannot be made or registered. -/
inductive RouteError where
  | invalidMethod (method : String)
  | invalidDefinition (method definition : String) (cause : DefinitionError)
  | duplicateName (name : String)
deriving DecidableEq, Repr

/-- The wording. -/
def RouteError.message : RouteError → String
  | invalidMethod method => "invalid HTTP method '" ++ method ++ "'"
  | invalidDefinition method definition cause =>
    "invalid route " ++ method ++ " '" ++ definition ++ "': " ++ cause.message definition
  | duplicateName name => "route name '" ++ name ++ "' is already registered"

/-! ### Routes -/

/-- A route. -/
structure Route (α : Type) where
  method : Method
  definition : String
  path : Path
  registry : TypeRegistry
  handler : α
  name : Option String := none

namespace Route

variable {α : Type}

/-- The method that a text names. -/
def methodOf (method : String) : Except RouteError Method :=
  match Method.ofString? method with
  | some m => .ok m
  | none => .error (.invalidMethod method)

/-- The route of a definition text. -/
def ofDefinition (registry : TypeRegistry) (method : Method) (definition : String) (handler : α)
    (name : Option String := none) : Except RouteError (Route α) :=
  match Path.parse registry definition with
  | .ok path => .ok { method, definition, path, registry, handler, name }
  | .error e => .error (.invalidDefinition method.name definition e)

/-- The route of a path, with the text of the path as its definition. -/
def ofPath (registry : TypeRegistry) (method : Method) (path : Path) (handler : α)
    (name : Option String := none) : Except RouteError (Route α) :=
  match path.validate registry with
  | .ok () => .ok { method, definition := path.render, path, registry, handler, name }
  | .error e => .error (.invalidDefinition method.name path.render e)

/-- The text that shows a route. -/
def describe (r : Route α) : String :=
  r.method.name ++ " " ++ r.definition ++
    match r.name with
    | some name => " (" ++ name ++ ")"
    | none => ""

/-- The URI of a route, after a prefix. -/
def uri (r : Route α) (values : Values) (pathPrefix : String) : Except UriError String :=
  r.path.uri r.registry values pathPrefix

/-! ### Lemmas -/

/-- A definition makes a route exactly if it can be read. The route keeps all that was given. -/
theorem ofDefinition_eq_ok_iff {registry : TypeRegistry} {method : Method} {definition : String}
    {handler : α} {name : Option String} {r : Route α} :
    ofDefinition registry method definition handler name = .ok r ↔
      ∃ path, Path.parse registry definition = .ok path ∧
        { method, definition, path, registry, handler, name } = r := by
  rw [ofDefinition]
  split
  · next path hpath => simp [hpath]
  · next e he => simp [he]

end Route

end HttpRouting
