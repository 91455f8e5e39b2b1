/-
Routing the URIs that a router writes.

* `Request.pathOf_eq_self`: a URI without query and fragment is a path as a whole;
* `RouteTable.uri_eq_ok_iff`: the URI of a name is the one of the route with this name;
* `Router.matchRequest_of_takes`: a request that a route takes is answered by it or an earlier one;
* `Router.matchUri_uri`: so a URI that a router writes is routed back, unless a mark in it begins a
  query or a fragment;
* `Router.matchUri_uri_query`: a value with such a mark makes a URI that no route takes back.

Values and literals are written as they are, and a request is cut at the first mark.
-/
import HttpRouting.Proofs.Matching.Generation
import HttpRouting.Router.Basic

namespace HttpRouting

variable {α : Type}

/-- A URI without query and fragment is a path as a whole. -/
lemma Request.pathOf_eq_self {uri : String} (h : ∀ c ∈ uri.toList, c ≠ '?' ∧ c ≠ '#') :
    pathOf uri = uri := by
  have hall : uri.toList.takeWhile (fun c => c != '?' && c != '#') = uri.toList := by
    refine List.takeWhile_eq_self_iff.2 fun c hc => ?_
    obtain ⟨hquery, hfragment⟩ := h c hc
    simp [hquery, hfragment]
  rw [pathOf, hall, String.ofList_toList]

/-- The URI of a name is the one of the route with this name. -/
lemma RouteTable.uri_eq_ok_iff {t : RouteTable α} {name pathPrefix uri : String}
    {values : Values} :
    t.uri name values pathPrefix = .ok uri ↔
      ∃ i r, t.indexOf? name = some i ∧ t.get? i = some r ∧ r.uri values pathPrefix = .ok uri := by
  rw [RouteTable.uri, byName?]
  cases hindex : t.indexOf? name with
  | none => simp
  | some i => cases hr : t.get? i <;> simp [hr]

namespace Router

variable {t : RouteTable α} {config : RouterConfig} {router : Router α}

/-- The matcher of a router is the one of its table. -/
lemma compile_of_ofTable (h : ofTable t config = .ok router) :
    Matcher.compile t config.strategy = .ok router.matcher := by
  rw [ofTable] at h
  split at h
  · cases h
  · split at h
    · cases h
    · next matcher hmatcher =>
        cases h
        exact hmatcher

/-- **A request that a route takes is answered by it or an earlier route.** -/
theorem matchRequest_of_takes (htypes : t.IsSelfContained)
    (hrouter : ofTable t config = .ok router) {i : Nat} {r : Route α} (hr : t.get? i = some r)
    {request : Request} (hmethod : request.method = r.method.name) {c : Captures}
    (htakes : r.Takes request.path.toList c) :
    ∃ m, router.matchRequest request = .ok m ∧ t.get? m.index = some m.route ∧ m.index ≤ i := by
  obtain ⟨htable, -⟩ := table_of_ofTable hrouter
  have hcompile := compile_of_ofTable hrouter
  obtain ⟨j, d, hfind, hle⟩ :=
    Matcher.exists_find_of_takes (fun _ => htypes) hcompile hr htakes
  obtain ⟨r', hr', -, -⟩ := Matcher.takes_of_find (fun _ => htypes) hcompile hfind
  refine ⟨⟨r', j, request.bindAll d⟩, ?_, hr', hle⟩
  rw [matchRequest, hmethod, hfind, htable]
  dsimp only
  rw [hr']

/-- **A URI that a router writes is routed back**, to the named route or an earlier one, if no mark
of a query or a fragment is in it. -/
theorem matchUri_uri (htypes : ∀ r ∈ t.routes, r.registry = TypeRegistry.default)
    (hrouter : ofTable t config = .ok router) (hempty : config.uriPrefix = "")
    {name uri : String} {values : Values} (huri : router.uri name values = .ok uri)
    (hmarks : ∀ c ∈ uri.toList, c ≠ '?' ∧ c ≠ '#') :
    ∃ i r m, t.indexOf? name = some i ∧ t.get? i = some r ∧
      router.matchUri r.method.name uri = .ok m ∧ t.get? m.index = some m.route ∧ m.index ≤ i := by
  have hself := RouteTable.isSelfContained_of_default htypes
  obtain ⟨htable, hconfig⟩ := table_of_ofTable hrouter
  rw [Router.uri, htable, hconfig, hempty] at huri
  obtain ⟨i, r, hindex, hr, huri⟩ := RouteTable.uri_eq_ok_iff.1 huri
  have hpath : (Request.ofUri r.method.name uri).path = uri := Request.pathOf_eq_self hmarks
  have htakes : r.Takes (Request.ofUri r.method.name uri).path.toList (r.path.valuesIn values) := by
    rw [hpath]
    exact Path.derives_of_uri huri
  obtain ⟨m, hm, hroute, hle⟩ := matchRequest_of_takes hself hrouter hr rfl htakes
  exact ⟨i, r, m, hindex, hr, hm, hroute, hle⟩

/-- Two named routes, the first of which takes some of the paths of the second. -/
def editTable : RouteTable Unit :=
  ((do
    let get ← Route.methodOf "GET"
    let first ← (RouteTable.empty .default).add get "/\x7bid:number\x7d[/\x7btab\x7d]" () "show"
    first.1.add get "/\x7bname\x7d/edit" () "edit" :
      Except RouteError (RouteTable Unit × Nat)).toOption.get (by decide +kernel)).1

/-- The pattern with the trees of these routes side by side. -/
def editPattern : MarkedPattern :=
  (MarkedPattern.ofForest? editTable (Forest.ofTable editTable)).get (by decide +kernel)

/-- The router of these routes with the default settings. -/
def editRouter : Router Unit :=
  ⟨editTable, .treePattern editPattern, {}⟩

lemma types_editTable : ∀ r ∈ editTable.routes, r.registry = TypeRegistry.default := by
  decide +kernel

lemma ofTable_editTable : ofTable editTable {} = .ok editRouter := by
  have hcompile : Matcher.compile editTable .treePattern = .ok (.treePattern editPattern) :=
    Matcher.compile_treePattern (Option.some_get _).symm
  have hvalid : ({} : RouterConfig).validate = .ok () := by decide +kernel
  rw [ofTable, hvalid]
  dsimp only [Strategy.default]
  rw [hcompile]
  rfl

/-- The first route takes this URI of the second one. -/
theorem matchUri_uri_show :
    (∀ r ∈ editTable.routes, r.registry = TypeRegistry.default) ∧
      ofTable editTable {} = .ok editRouter ∧
      editRouter.uri "edit" [("name", "7")] = .ok "/7/edit" ∧
      ∃ i r m, editTable.indexOf? "edit" = some i ∧ editTable.get? i = some r ∧
        editRouter.matchUri r.method.name "/7/edit" = .ok m ∧
        editTable.get? m.index = some m.route ∧ m.index ≤ i := by
  have huri : editRouter.uri "edit" [("name", "7")] = .ok "/7/edit" := by decide +kernel
  have hmarks : ∀ c ∈ "/7/edit".toList, c ≠ '?' ∧ c ≠ '#' := by simp
  exact ⟨types_editTable, ofTable_editTable, huri,
    matchUri_uri types_editTable ofTable_editTable rfl huri hmarks⟩

/-- A value may hold a mark that begins a query. The rest of its URI is not looked at, and no route
takes what is left. -/
theorem matchUri_uri_query :
    (∀ r ∈ editTable.routes, r.registry = TypeRegistry.default) ∧
      ofTable editTable {} = .ok editRouter ∧
      editRouter.uri "edit" [("name", "a?b")] = .ok "/a?b/edit" ∧
      editTable.indexOf? "edit" = some 1 ∧
      ∃ f, editRouter.matchUri "GET" "/a?b/edit" = .error f ∧ f.status = 404 := by
  have huri : editRouter.uri "edit" [("name", "a?b")] = .ok "/a?b/edit" := by decide +kernel
  have hindex : editTable.indexOf? "edit" = some 1 := by decide +kernel
  have hrequest : Request.ofUri "GET" "/a?b/edit" = ⟨"GET", "/a", []⟩ := by decide +kernel
  have hlookup : editPattern.lookup? "/a".toList "GET".toList = none := by decide +kernel
  have hallowed : editPattern.allowed "/a".toList = {} := by decide +kernel
  have hlist : AllowedMethods.toList {} = [] := List.mergeSort_nil
  have hfind : editRouter.matcher.find "GET" "/a" = .failed [] := by
    rw [editRouter, Matcher.find, MarkedPattern.find, hlookup, hallowed, ite_self]
    exact congrArg Outcome.failed hlist
  refine ⟨types_editTable, ofTable_editTable, huri, hindex, ⟨[], ⟨"GET", "/a", []⟩⟩, ?_, rfl⟩
  rw [matchUri, hrequest, matchRequest, hfind]
  rfl

end Router

end HttpRouting
