/-
Routers: matching requests and writing URIs.

* `Router`: a table with its matcher and settings;
* `Router.ofTable`: the router of a table;
* `RouteMatch`, `MatchFailure`: the two answers to a request;
* `Router.matchRequest`: the answer to a request;
* `Router.uri`: the URI of a named route.
-/
import HttpRouting.Matching.Matcher
import HttpRouting.Request
import HttpRouting.Router.Config

namespace HttpRouting

/-! ### Making a router -/

/-- Why a router cannot be made. -/
inductive RouterError where
  | config (cause : ConfigError)
  | compile (cause : CompileError)
deriving DecidableEq, Repr

/-- The wording. -/
def RouterError.message : RouterError → String
  | config cause => cause.message
  | compile cause => cause.message

/-- A table with its matcher and settings. -/
structure Router (α : Type) where
  table : RouteTable α
  matcher : Matcher
  config : RouterConfig

namespace Router

variable {α : Type}

/-- The router of a table. The settings are checked first. -/
def ofTable (t : RouteTable α) (config : RouterConfig) : Except RouterError (Router α) :=
  match config.validate with
  | .error e => .error (.config e)
  | .ok () =>
    match Matcher.compile t config.strategy with
    | .error e => .error (.compile e)
    | .ok matcher => .ok ⟨t, matcher, config⟩

end Router

/-! ### Answers -/

/-- A route that matches a request. The request has the captures bound. -/
structure RouteMatch (α : Type) where
  route : Route α
  index : Nat
  request : Request

/-- The value of an attribute after a match. -/
def RouteMatch.get? {α : Type} (m : RouteMatch α) (name : String) : Option String :=
  m.request.get? name

/-- No route matches a request. Each method that a route allows for its path comes with the first
such route. -/
structure MatchFailure (α : Type) where
  allowed : List (Method × Route α)
  request : Request

namespace MatchFailure

variable {α : Type}

/-- Whether no route matches the path, whatever the method. -/
def isNotFound (f : MatchFailure α) : Bool :=
  f.allowed.isEmpty

/-- The status code of the failure. -/
def status (f : MatchFailure α) : Nat :=
  if f.isNotFound then 404 else 405

/-- The methods that are allowed, between commas. -/
def allowHeader (f : MatchFailure α) : String :=
  ", ".intercalate (f.allowed.map fun (m, _) => m.name)

/-- The wording. -/
def message (f : MatchFailure α) : String :=
  if f.isNotFound then "no route for " ++ f.request.method ++ " " ++ f.request.path
  else "method " ++ f.request.method ++ " not allowed for " ++ f.request.path ++ " (allow: " ++
    f.allowHeader ++ ")"

end MatchFailure

/-! ### Matching -/

namespace Router

variable {α : Type}

/-- The answer to a request. -/
def matchRequest (r : Router α) (request : Request) : Except (MatchFailure α) (RouteMatch α) :=
  match r.matcher.find request.method request.path with
  | .matched index captures =>
    match r.table.get? index with
    | some route => .ok ⟨route, index, request.bindAll captures⟩
    | none => .error ⟨[], request⟩
  | .failed allowed =>
    .error ⟨allowed.filterMap fun (m, index) => (r.table.get? index).map (m, ·), request⟩

/-- The answer to a request for a URI. -/
def matchUri (r : Router α) (method uri : String) : Except (MatchFailure α) (RouteMatch α) :=
  r.matchRequest (Request.ofUri method uri)

/-- The URI of a named route, after the router's prefix. -/
def uri (r : Router α) (name : String) (values : Values) : Except UriError String :=
  r.table.uri name values r.config.uriPrefix

/-- A router has the table and the settings it was made of. -/
theorem table_of_ofTable {t : RouteTable α} {config : RouterConfig} {r : Router α}
    (h : ofTable t config = .ok r) : r.table = t ∧ r.config = config := by
  rw [ofTable] at h
  split at h
  · exact nomatch h
  · split at h
    · exact nomatch h
    · cases h
      exact ⟨rfl, rfl⟩

end Router

end HttpRouting
