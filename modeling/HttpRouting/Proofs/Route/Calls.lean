/-
What calls leave of a table.

* `TableCall.apply_eq`: a call stores the routes that it makes;
* `RouteTable.atomically`: a computation that leaves the table as it was if there is a fault;
* `TableCall.inPlace_eq`: a call in place is one;
* `RouteTable.Indexed`: the index of names is in step with the routes;
* `RouteTable.Indexed.pushAll`: storing routes keeps it in step;
* `RouteTable.Indexed.indexOf?_eq_some_iff`, `RouteTable.Indexed.byName?_eq_some_iff`: so each name
  leads to the one route that carries it;
* `TableCall.afterAll_spec`: this holds after any calls, whether they succeed or fail.

A name is noted before its route is stored, and several routes are stored one by one. That a fault
does not leave half of this behind rests on the order of the checks, and on routes of several
methods having no names.
-/
import HttpRouting.AttributeType.Builder
import HttpRouting.Proofs.Lists
import HttpRouting.Proofs.Results
import HttpRouting.Route.Calls
import Mathlib.Data.List.Nodup

namespace HttpRouting

variable {α : Type}

/-! ### The routes of a call -/

namespace TableCall

variable {registry : TypeRegistry} {call : TableCall α} {rs : List (Route α)}

/-- The routes have the methods of the call, in that order. -/
lemma methods_of_routes (h : call.routes registry = .ok rs) : rs.map (·.method) = call.methods := by
  cases call with
  | add method definition handler | addNamed name method definition handler =>
      obtain ⟨r, hr, rfl⟩ := map_eq_ok_iff.1 h
      obtain ⟨path, -, rfl⟩ := Route.ofDefinition_eq_ok_iff.1 hr
      rfl
  | addMethods ms definition handler =>
      have hall : List.Forall₂ (fun m r => id m = Route.method r) ms rs := by
        refine (forall₂_of_mapM_eq_ok h).imp fun m r hr => ?_
        obtain ⟨path, -, rfl⟩ := Route.ofDefinition_eq_ok_iff.1 hr
        rfl
      rw [methods, ← map_eq_map_of_forall₂ hall, List.map_id]
  | push r =>
      cases h
      rfl

/-- Only the first of the routes may have a name. -/
lemma name_of_mem_tail (h : call.routes registry = .ok rs) : ∀ r ∈ rs.tail, r.name = none := by
  cases call with
  | add method definition handler | addNamed name method definition handler =>
      obtain ⟨r, -, rfl⟩ := map_eq_ok_iff.1 h
      exact fun r hr => nomatch hr
  | addMethods methods definition handler =>
      intro r hr
      obtain ⟨m, hm⟩ := exists_of_mem_mapM h (List.mem_of_mem_tail hr)
      obtain ⟨path, -, rfl⟩ := Route.ofDefinition_eq_ok_iff.1 hm
      rfl
  | push r =>
      cases h
      exact fun r hr => nomatch hr

end TableCall

/-! ### Storing several routes -/

namespace RouteTable

variable {t t' : RouteTable α} {r : Route α} {rs : List (Route α)} {indices : List Nat}

lemma pushAll_singleton (t : RouteTable α) (r : Route α) :
    t.pushAll [r] = (t.push r).map fun added => (added.1, [added.2]) := by
  rw [pushAll]
  cases t.push r <;> rfl

/-- **The routes are appended in their order**, and their indices follow each other. -/
theorem routes_pushAll (h : t.pushAll rs = .ok (t', indices)) :
    t'.routes = t.routes ++ rs ∧ indices = List.range' t.size rs.length := by
  induction rs generalizing t indices with
  | nil =>
      cases h
      exact ⟨(List.append_nil _).symm, rfl⟩
  | cons r rs ih =>
      obtain ⟨⟨t₁, index⟩, hfirst, h⟩ := bind_eq_ok_iff.1 h
      obtain ⟨⟨t₂, others⟩, hrest, h⟩ := bind_eq_ok_iff.1 h
      cases h
      obtain ⟨hroutes, rfl, -⟩ := routes_push hfirst
      obtain ⟨hroutes', rfl⟩ := ih hrest
      have hsize : t₁.size = t.size + 1 := by
        rw [size, hroutes, List.length_append, List.length_singleton, size]
      rw [hroutes', hroutes, hsize, List.append_assoc]
      exact ⟨rfl, rfl⟩

end RouteTable

/-- **A call stores the routes that it makes.** -/
theorem TableCall.apply_eq (t : RouteTable α) (call : TableCall α) :
    call.apply t = call.routes t.registry >>= t.pushAll := by
  cases call with
  | add method definition handler | addNamed name method definition handler =>
      rw [apply, RouteTable.add, routes]
      cases Route.ofDefinition t.registry method definition handler _ with
      | error e => rfl
      | ok r => exact (t.pushAll_singleton r).symm
  | addMethods methods definition handler => rfl
  | push r => exact (t.pushAll_singleton r).symm

/-! ### Calls in place -/

namespace RouteTable

variable {t : RouteTable α} {rs : List (Route α)}

/-- A computation on a table that is changed in place. A fault leaves the table as it was. -/
def atomically {β : Type} (f : RouteTable α → Except RouteError (RouteTable α × β)) :
    InPlace α β := fun t =>
  match f t with
  | .ok (t', b) => .ok b t'
  | .error e => .error e t

section Atomically

variable {β : Type} {f : RouteTable α → Except RouteError (RouteTable α × β)}

lemma run_atomically_of_ok {t' : RouteTable α} {b : β} (h : f t = .ok (t', b)) :
    (atomically f).run t = .ok b t' := by
  rw [EStateM.run, atomically, h]

lemma run_atomically_of_error {e : RouteError} (h : f t = .error e) :
    (atomically f).run t = .error e t := by
  rw [EStateM.run, atomically, h]

end Atomically

/-- A name that is taken is found out before anything is noted. -/
lemma run_reserve (t : RouteTable α) (name : String) (index : Nat) :
    (reserve name index).run t =
      if (t.indexOf? name).isSome then .error (.duplicateName name) t
      else .ok () { t with names := t.names ++ [(name, index)] } := by
  rw [reserve, EStateM.run_bind, EStateM.run_get]
  dsimp only
  split
  · rfl
  · rfl

lemma pushInPlace_eq (r : Route α) : pushInPlace r = atomically (·.push r) := by
  funext t
  change (pushInPlace r).run t = _
  rw [pushInPlace, EStateM.run_bind, EStateM.run_get, atomically, push]
  dsimp only
  cases r.name with
  | none => rfl
  | some name =>
      dsimp only
      rw [EStateM.run_bind, run_reserve]
      cases (t.indexOf? name).isSome with
      | true => rfl
      | false => rfl

/-- Routes without names can be stored. -/
lemma exists_pushAll (t : RouteTable α) (h : ∀ r ∈ rs, r.name = none) :
    ∃ added, t.pushAll rs = .ok added := by
  induction rs generalizing t with
  | nil => exact ⟨_, rfl⟩
  | cons r rs ih =>
      obtain ⟨hr, hrs⟩ := List.forall_mem_cons.1 h
      obtain ⟨added, hadded⟩ := ih { t with routes := t.routes ++ [r] } hrs
      rw [pushAll, push, hr]
      exact ⟨_, bind_eq_ok_iff.2 ⟨_, rfl, bind_eq_ok_iff.2 ⟨added, hadded, rfl⟩⟩⟩

/-- Storing routes one by one. Only the first may have a name, so there is nothing to undo. -/
lemma mapM_pushInPlace_eq (h : ∀ r ∈ rs.tail, r.name = none) :
    rs.mapM pushInPlace = atomically (·.pushAll rs) := by
  induction rs with
  | nil =>
      funext t
      rfl
  | cons r rs ih =>
      have hrest := ih fun r' hr => h r' (List.mem_of_mem_tail hr)
      funext t
      change ((r :: rs).mapM pushInPlace).run t = (atomically (·.pushAll (r :: rs))).run t
      rw [List.mapM_cons, EStateM.run_bind, pushInPlace_eq, hrest]
      cases hpush : t.push r with
      | error e =>
          have hall : t.pushAll (r :: rs) = .error e := by
            rw [pushAll, hpush]
            rfl
          rw [run_atomically_of_error hpush, run_atomically_of_error hall]
      | ok added =>
          obtain ⟨others, hothers⟩ := exists_pushAll added.1 h
          have hall : t.pushAll (r :: rs) = .ok (others.1, added.2 :: others.2) :=
            bind_eq_ok_iff.2 ⟨added, hpush, bind_eq_ok_iff.2 ⟨others, hothers, rfl⟩⟩
          rw [run_atomically_of_ok hpush, run_atomically_of_ok hall]
          dsimp only
          rw [EStateM.run_bind, run_atomically_of_ok hothers]
          rfl

end RouteTable

namespace TableCall

/-- **A call in place leaves the table as it was if there is a fault**, and otherwise does what the
call makes of the table. -/
theorem inPlace_eq (call : TableCall α) : call.inPlace = RouteTable.atomically call.apply := by
  funext t
  change call.inPlace.run t = (RouteTable.atomically call.apply).run t
  rw [inPlace, EStateM.run_bind, EStateM.run_get]
  dsimp only
  rw [EStateM.run_bind]
  cases hroutes : call.routes t.registry with
  | error e =>
      have happly : call.apply t = .error e := by
        rw [apply_eq, hroutes]
        rfl
      rw [RouteTable.run_atomically_of_error happly]
      rfl
  | ok rs =>
      have happly : call.apply t = t.pushAll rs := by
        rw [apply_eq, hroutes]
        rfl
      change (rs.mapM RouteTable.pushInPlace).run t = _
      rw [RouteTable.mapM_pushInPlace_eq (name_of_mem_tail hroutes), EStateM.run, EStateM.run,
        RouteTable.atomically, RouteTable.atomically, happly]

/-- After a call that succeeds, the table is the one that the call makes. -/
lemma after_of_ok {t t' : RouteTable α} {call : TableCall α} {indices : List Nat}
    (h : call.apply t = .ok (t', indices)) : after t call = t' := by
  rw [after, inPlace_eq, RouteTable.run_atomically_of_ok h]

/-- After a call that fails, it is the one before. -/
lemma after_of_error {t : RouteTable α} {call : TableCall α} {e : RouteError}
    (h : call.apply t = .error e) : after t call = t := by
  rw [after, inPlace_eq, RouteTable.run_atomically_of_error h]

end TableCall

/-! ### The index of names -/

namespace RouteTable

variable {t t' : RouteTable α} {r : Route α} {rs : List (Route α)} {name : String}

/-- The names of the routes that have one, with the indices of these routes. -/
def named (t : RouteTable α) : List (String × Nat) :=
  t.routes.zipIdx.filterMap fun e => e.1.name.map (·, e.2)

/-- The index of names is in step with the routes: it holds the name of each route that has one,
with the index of the route, and no name twice. -/
structure Indexed (t : RouteTable α) : Prop where
  names_eq : t.names = t.named
  nodup : (t.names.map (·.1)).Nodup

lemma mem_named_iff {i : Nat} :
    (name, i) ∈ t.named ↔ ∃ r, t.get? i = some r ∧ r.name = some name := by
  rw [named, List.mem_filterMap]
  constructor
  · rintro ⟨⟨r, j⟩, hr, he⟩
    obtain ⟨n, hn, he⟩ := Option.map_eq_some_iff.1 he
    cases he
    exact ⟨r, List.mk_mem_zipIdx_iff_getElem?.1 hr, hn⟩
  · rintro ⟨r, hr, hn⟩
    exact ⟨(r, i), List.mk_mem_zipIdx_iff_getElem?.2 hr, Option.map_eq_some_iff.2 ⟨name, hn, rfl⟩⟩

/-- A further route adds its name at the end. -/
lemma named_of_routes_eq (h : t'.routes = t.routes ++ [r]) :
    t'.named = t.named ++ (r.name.map (·, t.size)).toList := by
  rw [named, h, List.zipIdx_append, List.filterMap_append, named, size, Nat.zero_add]
  cases hname : r.name <;> simp [hname]

lemma indexOf?_eq_none_iff : t.indexOf? name = none ↔ name ∉ t.names.map (·.1) := by
  rw [indexOf?, Option.map_eq_none_iff, List.find?_eq_none, List.mem_map]
  constructor
  · rintro h ⟨e, he, rfl⟩
    exact h e he (beq_self_eq_true e.1)
  · intro h e he hname
    exact h ⟨e, he, eq_of_beq hname⟩

namespace Indexed

lemma empty (registry : TypeRegistry) : (RouteTable.empty registry : RouteTable α).Indexed where
  names_eq := rfl
  nodup := List.nodup_nil

/-- Storing a route keeps the index in step. -/
lemma push {index : Nat} (h : t.Indexed) (hpush : t.push r = .ok (t', index)) : t'.Indexed := by
  have hnamed := named_of_routes_eq (routes_push hpush).1
  rw [RouteTable.push] at hpush
  split at hpush
  · next hname =>
      cases hpush
      rw [hname] at hnamed
      exact ⟨h.names_eq.trans (hnamed.trans (List.append_nil _)).symm, h.nodup⟩
  · next name hname =>
      split at hpush
      · cases hpush
      · next hfree =>
          -- the name is new, because looking it up found nothing
          cases hpush
          rw [hname] at hnamed
          have hnew : name ∉ t.names.map (·.1) :=
            indexOf?_eq_none_iff.1 (Option.not_isSome_iff_eq_none.1 hfree)
          refine ⟨?_, ?_⟩
          · rw [hnamed, ← h.names_eq]
            rfl
          · rw [List.map_append]
            exact List.nodup_append.2 ⟨h.nodup, List.nodup_singleton name, fun n hn m hm => by
              rw [List.mem_singleton.1 hm]
              rintro rfl
              exact hnew hn⟩

/-- **Storing several routes keeps the index in step.** -/
theorem pushAll {indices : List Nat} (h : t.Indexed) (hpush : t.pushAll rs = .ok (t', indices)) :
    t'.Indexed := by
  induction rs generalizing t indices with
  | nil =>
      cases hpush
      exact h
  | cons r rs ih =>
      obtain ⟨first, hfirst, hpush⟩ := bind_eq_ok_iff.1 hpush
      obtain ⟨others, hothers, he⟩ := bind_eq_ok_iff.1 hpush
      cases he
      exact ih (h.push hfirst) hothers

/-- **A name leads to the index of the route that carries it.** -/
theorem indexOf?_eq_some_iff (h : t.Indexed) {i : Nat} :
    t.indexOf? name = some i ↔ ∃ r, t.get? i = some r ∧ r.name = some name := by
  rw [← mem_named_iff, ← h.names_eq, indexOf?, Option.map_eq_some_iff]
  constructor
  · rintro ⟨⟨n, j⟩, hfind, rfl⟩
    obtain rfl : n = name := eq_of_beq (List.find?_some hfind :)
    exact List.mem_of_find?_eq_some hfind
  · intro hmem
    cases hfind : t.names.find? (·.1 == name) with
    | none => exact absurd (beq_self_eq_true name) (List.find?_eq_none.1 hfind _ hmem)
    | some e =>
        have hname : e.1 = name := eq_of_beq (List.find?_some hfind :)
        have he : e = (name, i) :=
          List.inj_on_of_nodup_map h.nodup (List.mem_of_find?_eq_some hfind) hmem hname
        exact ⟨e, rfl, congrArg Prod.snd he⟩

/-- **It leads to that route.** -/
theorem byName?_eq_some_iff (h : t.Indexed) :
    t.byName? name = some r ↔ r ∈ t.routes ∧ r.name = some name := by
  rw [byName?, Option.bind_eq_some_iff]
  simp only [h.indexOf?_eq_some_iff]
  constructor
  · rintro ⟨i, ⟨r', hr', hname⟩, hr⟩
    obtain rfl := Option.some.inj (hr'.symm.trans hr)
    exact ⟨List.mem_of_getElem? hr, hname⟩
  · rintro ⟨hmem, hname⟩
    obtain ⟨i, hi⟩ := List.mem_iff_getElem?.1 hmem
    exact ⟨i, ⟨r, hi, hname⟩, hi⟩

end Indexed

end RouteTable

/-! ### After any calls -/

namespace TableCall

variable {t t' : RouteTable α} {call : TableCall α} {indices : List Nat}

/-- The routes of a call that succeeds come after those that were there. -/
lemma routes_of_apply (h : call.apply t = .ok (t', indices)) :
    indices = List.range' t.size call.methods.length ∧
      ∃ rs, call.routes t.registry = .ok rs ∧ t'.routes = t.routes ++ rs ∧
        rs.map (·.method) = call.methods := by
  rw [apply_eq] at h
  obtain ⟨rs, hrs, hpush⟩ := bind_eq_ok_iff.1 h
  obtain ⟨hroutes, rfl⟩ := RouteTable.routes_pushAll hpush
  have hmethods := methods_of_routes hrs
  rw [← hmethods, List.length_map]
  exact ⟨rfl, rs, hrs, hroutes, rfl⟩

/-- Stored routes stay where they are. -/
lemma prefix_after (t : RouteTable α) (call : TableCall α) :
    t.routes <+: (after t call).routes := by
  cases h : call.apply t with
  | error e => simp only [after_of_error h, List.prefix_rfl]
  | ok added =>
      obtain ⟨-, rs, -, hroutes, -⟩ := routes_of_apply h
      rw [after_of_ok h, hroutes]
      exact List.prefix_append _ _

lemma prefix_afterAll (t : RouteTable α) (calls : List (TableCall α)) :
    t.routes <+: (afterAll t calls).routes := by
  induction calls generalizing t with
  | nil => exact List.prefix_rfl
  | cons call calls ih => exact (prefix_after t call).trans (ih (after t call))

/-- A call keeps the index of names in step. -/
lemma indexed_after (h : t.Indexed) (call : TableCall α) : (after t call).Indexed := by
  cases happly : call.apply t with
  | error e =>
      rw [after_of_error happly]
      exact h
  | ok added =>
      rw [after_of_ok happly]
      rw [apply_eq] at happly
      obtain ⟨rs, -, hpush⟩ := bind_eq_ok_iff.1 happly
      exact h.pushAll hpush

lemma indexed_afterAll (h : t.Indexed) (calls : List (TableCall α)) :
    (afterAll t calls).Indexed := by
  induction calls generalizing t with
  | nil => exact h
  | cons call calls ih => exact ih (indexed_after h call)

/-- **After any calls, the index of names is in step with the routes, and a further call is all or
nothing.** Each name leads to the one route that carries it. A route that was stored stays the same
at its index. A call that fails leaves the table as it was. One that succeeds stores the routes that
it makes, in the order of its methods, at the indices that follow. -/
theorem afterAll_spec (registry : TypeRegistry) (calls : List (TableCall α)) :
    let t := afterAll (RouteTable.empty registry) calls
    (t.names = t.named ∧ (t.names.map (·.1)).Nodup) ∧
    (∀ name i, t.indexOf? name = some i ↔ ∃ r, t.get? i = some r ∧ r.name = some name) ∧
    (∀ name r, t.byName? name = some r ↔ r ∈ t.routes ∧ r.name = some name) ∧
    (∀ later i r, t.get? i = some r → (afterAll t later).get? i = some r) ∧
    ∀ call : TableCall α, match call.inPlace.run t with
      | .error e t' => t' = t ∧ call.apply t = .error e
      | .ok indices t' => call.apply t = .ok (t', indices) ∧
          indices = List.range' t.size call.methods.length ∧
          ∃ rs, call.routes t.registry = .ok rs ∧ t'.routes = t.routes ++ rs ∧
            rs.map (·.method) = call.methods := by
  intro t
  have hindexed : t.Indexed := indexed_afterAll (.empty registry) calls
  refine ⟨⟨hindexed.names_eq, hindexed.nodup⟩, fun name i => hindexed.indexOf?_eq_some_iff,
    fun name r => hindexed.byName?_eq_some_iff, fun later i r hr => ?_, fun call => ?_⟩
  · obtain ⟨others, hothers⟩ := prefix_afterAll t later
    have hlt : i < t.routes.length := (List.getElem?_eq_some_iff.1 hr).1
    rw [RouteTable.get?, ← hothers, List.getElem?_append_left hlt]
    exact hr
  · rw [inPlace_eq]
    cases h : call.apply t with
    | error e =>
        rw [RouteTable.run_atomically_of_error h]
        exact ⟨rfl, rfl⟩
    | ok added =>
        rw [RouteTable.run_atomically_of_ok h]
        exact ⟨rfl, routes_of_apply h⟩

/-- A name that is taken and a definition that cannot be read leave nothing behind. -/
example :
    let get : Method := ⟨"GET", by decide⟩
    let put : Method := ⟨"PUT", by decide⟩
    let t := afterAll (RouteTable.empty .default) [.addMethods [get, put] "/a" (),
      .addNamed "b" get "/b" (), .addNamed "b" put "/c" (), .addMethods [get, put] "/\x7bd" (),
      .add put "/e" ()]
    t.names = [("b", 2)] ∧ t.routes.map (·.definition) = ["/a", "/a", "/b", "/e"] := by
  decide +kernel

end TableCall

end HttpRouting
