/-
Tables that come of registering routes.

* `Route.IsMade`: a route is made of a definition or of a path;
* `Route.IsMade.validate`: its path passes the check;
* `RouteTable.Registered`: a table comes of registering such routes;
* `RouteTable.Registered.add`, `RouteTable.Registered.addMethods`: so do tables with routes of
  definitions;
* `RouteTable.Registered.isMade`: all routes of such a table are made in this way.
-/
import HttpRouting.Proofs.Path.Definition
import HttpRouting.Route.Table

namespace HttpRouting

variable {α : Type}

/-! ### Routes -/

/-- A route is made of a definition or of a path. -/
inductive Route.IsMade : Route α → Prop where
  | ofDefinition {registry : TypeRegistry} {method : Method} {definition : String} {handler : α}
      {name : Option String} {r : Route α}
      (made : Route.ofDefinition registry method definition handler name = .ok r) : IsMade r
  | ofPath {registry : TypeRegistry} {method : Method} {path : Path} {handler : α}
      {name : Option String} {r : Route α}
      (made : Route.ofPath registry method path handler name = .ok r) : IsMade r

/-- **The path of a route passes the check**, however the route was made. -/
theorem Route.IsMade.validate {r : Route α} (h : r.IsMade) :
    r.path.validate r.registry = .ok () := by
  cases h with
  | ofDefinition made =>
      obtain ⟨path, hparse, rfl⟩ := Route.ofDefinition_eq_ok_iff.1 made
      exact Path.validate_of_parse hparse
  | ofPath made =>
      rw [Route.ofPath] at made
      split at made
      · next hvalidate =>
          cases made
          exact hvalidate
      · exact nomatch made

/-! ### Tables -/

namespace RouteTable

/-- A table comes of registering routes that are made of definitions or of paths. -/
inductive Registered : RouteTable α → Prop where
  | empty (registry : TypeRegistry) : Registered (RouteTable.empty registry)
  | push {t t' : RouteTable α} {r : Route α} {index : Nat} (before : Registered t) (made : r.IsMade)
      (pushed : t.push r = .ok (t', index)) : Registered t'

namespace Registered

variable {t : RouteTable α}

/-- The route of a definition. -/
lemma add (h : t.Registered) {method : Method} {definition : String} {handler : α}
    {name : Option String} {added : RouteTable α × Nat}
    (hadd : t.add method definition handler name = .ok added) : added.1.Registered := by
  obtain ⟨r, hr, hpush⟩ := bind_eq_ok_iff.1 hadd
  exact h.push (.ofDefinition hr) hpush

/-- Several routes. -/
lemma pushAll {rs : List (Route α)} {added : RouteTable α × List Nat} (h : t.Registered)
    (hrs : ∀ r ∈ rs, r.IsMade) (hpush : t.pushAll rs = .ok added) : added.1.Registered := by
  induction rs generalizing t added with
  | nil =>
      cases hpush
      exact h
  | cons r rs ih =>
      obtain ⟨hr, hrs⟩ := List.forall_mem_cons.1 hrs
      obtain ⟨first, hfirst, hpush⟩ := bind_eq_ok_iff.1 hpush
      obtain ⟨last, hrest, he⟩ := bind_eq_ok_iff.1 hpush
      cases he
      exact (ih (h.push hr hfirst) hrs hrest : last.1.Registered)

/-- The routes of a definition with several methods. -/
lemma addMethods (h : t.Registered) {methods : List Method} {definition : String} {handler : α}
    {added : RouteTable α × List Nat}
    (hadd : t.addMethods methods definition handler = .ok added) : added.1.Registered := by
  obtain ⟨rs, hrs, hpush⟩ := bind_eq_ok_iff.1 hadd
  exact h.pushAll (fun r hr => (exists_of_mem_mapM hrs hr).elim fun _ he => .ofDefinition he) hpush

/-- **All routes of a table are made of definitions or of paths.** -/
theorem isMade (h : t.Registered) : ∀ r ∈ t.routes, r.IsMade := by
  induction h with
  | empty registry => exact fun r hr => nomatch hr
  | push before made pushed ih =>
      rw [(routes_push pushed).1]
      exact List.forall_mem_append.2 ⟨ih, List.forall_mem_singleton.2 made⟩

end Registered

end RouteTable

end HttpRouting
