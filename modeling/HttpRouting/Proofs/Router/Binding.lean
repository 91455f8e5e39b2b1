/-
What a match binds on its request.

* `Router.matchRequest_eq_ok_iff`: a match is an outcome whose captures are bound on the request;
* `Router.get?_of_matchRequest`: a match has the captured values, and those that the request had for
  the attributes that took no part;
* `Router.get?_part_of_matchRequest`: so an optional rest that is left out may have a value;
* `Router.matchRequest_binds`: captured values override in place, or come last in the order of the
  definition, and matching once more changes nothing.
-/
import HttpRouting.Proofs.Matching.Captures
import HttpRouting.Proofs.Request.Binding
import HttpRouting.Proofs.Router.Uri

namespace HttpRouting.Router

variable {α : Type} {t : RouteTable α} {config : RouterConfig} {router : Router α}
  {request : Request} {m : RouteMatch α}

/-- A match is an outcome whose captures are bound on the request. -/
lemma matchRequest_eq_ok_iff :
    router.matchRequest request = .ok m ↔
      ∃ c, router.matcher.find request.method request.path = .matched m.index c ∧
        router.table.get? m.index = some m.route ∧ request.bindAll c = m.request := by
  rw [matchRequest]
  cases router.matcher.find request.method request.path with
  | matched index c =>
      dsimp only
      cases hr : router.table.get? index with
      | none =>
          constructor
          · intro h
            cases h
          · rintro ⟨_, he, hroute, -⟩
            cases he
            cases hr.symm.trans hroute
      | some route =>
          constructor
          · intro h
            cases h
            exact ⟨c, rfl, hr, rfl⟩
          · rintro ⟨_, he, hroute, hrequest⟩
            cases he
            obtain rfl := Option.some.inj (hr.symm.trans hroute)
            rw [hrequest]
  | failed allowed =>
      constructor
      · intro h
        cases h
      · rintro ⟨_, he, -⟩
        cases he

/-- The outcome behind a match. -/
lemma exists_captures (hregistered : t.Registered) (hrouter : ofTable t config = .ok router)
    (hmatch : router.matchRequest request = .ok m) :
    ∃ c, router.matcher.find request.method request.path = .matched m.index c ∧
      t.get? m.index = some m.route ∧ request.bindAll c = m.request ∧ (c.map (·.1)).Nodup := by
  obtain ⟨c, hfind, hroute, hrequest⟩ := matchRequest_eq_ok_iff.1 hmatch
  rw [(table_of_ofTable hrouter).1] at hroute
  have hnodup := Matcher.nodup_names_of_find hregistered (compile_of_ofTable hrouter) hfind
  exact ⟨c, hfind, hroute, hrequest, hnodup⟩

/-- **A match has the values that it captures.** A required attribute always takes part. An
attribute of an optional rest that is left out has the value that the request had for it. -/
theorem get?_of_matchRequest (hregistered : t.Registered)
    (htypes : ∀ r ∈ t.routes, r.registry = TypeRegistry.default)
    (hrouter : ofTable t config = .ok router) (hmatch : router.matchRequest request = .ok m) :
    ∃ c, router.matcher.find request.method request.path = .matched m.index c ∧
      t.get? m.index = some m.route ∧ m.route.Takes request.path.toList c ∧
      ∀ a ∈ m.route.path.attributes,
        (a.required = true → ∃ v, (a.name, v) ∈ c) ∧
        (∀ v, (a.name, v) ∈ c → m.get? a.name = some v) ∧
        ((∀ v, (a.name, v) ∉ c) → m.get? a.name = request.get? a.name) := by
  have hself := RouteTable.isSelfContained_of_default htypes
  obtain ⟨c, hfind, hroute, hrequest, hnodup⟩ := exists_captures hregistered hrouter hmatch
  obtain ⟨r, hr, -, htakes⟩ :=
    Matcher.takes_of_find (fun _ => hself) (compile_of_ofTable hrouter) hfind
  obtain rfl : r = m.route := Option.some.inj (hr.symm.trans hroute)
  have hget : ∀ name, m.get? name = (c.lookup name).or (request.get? name) := by
    intro name
    rw [RouteMatch.get?, ← hrequest, Request.get?_bindAll hnodup]
  refine ⟨c, hfind, hroute, htakes, fun a ha => ⟨fun hrequired => ?_, fun v hv => ?_, fun hnone => ?_⟩⟩
  · obtain ⟨⟨_, v⟩, hv, rfl⟩ := List.mem_map.1 (htakes.mem_names_of_required ha hrequired)
    exact ⟨v, hv⟩
  · rw [hget, (lookup_eq_some_iff_mem hnodup).2 hv, Option.some_or]
  · have hlookup : c.lookup a.name = none := by
      refine lookup_eq_none.2 fun hmem => ?_
      obtain ⟨⟨_, v⟩, hv, rfl⟩ := List.mem_map.1 hmem
      exact hnone v hv
    rw [hget, hlookup, Option.none_or]

/-- The router of two routes, the second of which ends in nested optional rests. -/
def pageRouter : Router Unit :=
  ⟨Matcher.pageTable, .treePattern Matcher.pagePattern, {}⟩

/-- A request that has values for two attributes of the second route. -/
def pageRequest : Request :=
  ⟨"GET", "/a/7", [("part", "x"), ("name", "old")]⟩

/-- The match of this request, which leaves the inner optional rest out. -/
def pageMatch : RouteMatch Unit :=
  ⟨Matcher.pageRoute, 1, ⟨"GET", "/a/7", [("part", "x"), ("name", "a"), ("page", "7")]⟩⟩

lemma types_pageTable : ∀ r ∈ Matcher.pageTable.routes, r.registry = TypeRegistry.default := by
  decide +kernel

lemma ofTable_pageTable : ofTable Matcher.pageTable {} = .ok pageRouter := by
  have hvalid : ({} : RouterConfig).validate = .ok () := by decide +kernel
  rw [ofTable, hvalid]
  dsimp only [Strategy.default]
  rw [Matcher.compile_pageTable]
  rfl

lemma find_pageRequest :
    pageRouter.matcher.find "GET" "/a/7" = .matched 1 [("name", "a"), ("page", "7")] := by
  decide +kernel

lemma matchRequest_pageRequest : pageRouter.matchRequest pageRequest = .ok pageMatch := by
  have hroute : pageRouter.table.get? pageMatch.index = some pageMatch.route := by
    simp only [pageRouter, pageMatch, Matcher.get?_pageTable]
  have hbound : pageRequest.bindAll [("name", "a"), ("page", "7")] = pageMatch.request := by
    decide +kernel
  exact matchRequest_eq_ok_iff.2 ⟨_, find_pageRequest, hroute, hbound⟩

/-- The match of this request has the captured values, and the value that the request had for the
attribute that took no part. -/
theorem get?_of_matchRequest_pageRequest :
    Matcher.pageTable.Registered ∧
      (∀ r ∈ Matcher.pageTable.routes, r.registry = TypeRegistry.default) ∧
      ofTable Matcher.pageTable {} = .ok pageRouter ∧
      pageRouter.matchRequest pageRequest = .ok pageMatch ∧
      ∃ c, pageRouter.matcher.find pageRequest.method pageRequest.path =
          .matched pageMatch.index c ∧
        Matcher.pageTable.get? pageMatch.index = some pageMatch.route ∧
        pageMatch.route.Takes pageRequest.path.toList c ∧
        ∀ a ∈ pageMatch.route.path.attributes,
          (a.required = true → ∃ v, (a.name, v) ∈ c) ∧
          (∀ v, (a.name, v) ∈ c → pageMatch.get? a.name = some v) ∧
          ((∀ v, (a.name, v) ∉ c) → pageMatch.get? a.name = pageRequest.get? a.name) :=
  ⟨Matcher.registered_pageTable, types_pageTable, ofTable_pageTable, matchRequest_pageRequest,
    get?_of_matchRequest Matcher.registered_pageTable types_pageTable ofTable_pageTable
      matchRequest_pageRequest⟩

/-- An attribute that took no part in a match may have a value, which the request had before. -/
theorem get?_part_of_matchRequest :
    Matcher.pageTable.Registered ∧
      (∀ r ∈ Matcher.pageTable.routes, r.registry = TypeRegistry.default) ∧
      ofTable Matcher.pageTable {} = .ok pageRouter ∧
      pageRouter.matchRequest pageRequest = .ok pageMatch ∧
      pageRouter.matcher.find "GET" "/a/7" = .matched 1 [("name", "a"), ("page", "7")] ∧
      ⟨"part", none, false⟩ ∈ pageMatch.route.path.attributes ∧
      pageMatch.get? "part" = some "x" :=
  ⟨Matcher.registered_pageTable, types_pageTable, ofTable_pageTable, matchRequest_pageRequest,
    find_pageRequest, by decide +kernel, by decide +kernel⟩

/-- **What a match binds.** The method and the path stay as they are. No name is bound twice: the
names that the request has keep their order and take the captured values, if there are any, and the
other captured names follow in the order of the definition. Matching once more gives the same. -/
theorem matchRequest_binds (hregistered : t.Registered) (hrouter : ofTable t config = .ok router)
    {method uri : String} {bound : List (String × String)}
    (hmatch : router.matchRequest ((Request.ofUri method uri).bindAll bound) = .ok m) :
    let request := (Request.ofUri method uri).bindAll bound
    ∃ c, router.matcher.find request.method request.path = .matched m.index c ∧
      t.get? m.index = some m.route ∧ (c.map (·.1)).Sublist m.route.path.attributeNames ∧
      m.request.method = request.method ∧ m.request.path = request.path ∧
      (m.request.attributes.map (·.1)).Nodup ∧
      m.request.attributes =
        (request.attributes.map fun (name, value) => (name, (c.lookup name).getD value)) ++
          c.filter (fun (name, _) => name ∉ request.attributes.map (·.1)) ∧
      router.matchRequest m.request = .ok m := by
  intro request
  have hnames : request.HasDistinctNames :=
    (Request.hasDistinctNames_ofUri method uri).bindAll bound
  obtain ⟨c, hfind, hroute, hrequest, hnodup⟩ := exists_captures hregistered hrouter hmatch
  obtain ⟨r, hr, hsublist⟩ := Matcher.names_sublist_of_find (compile_of_ofTable hrouter) hfind
  obtain rfl : r = m.route := Option.some.inj (hr.symm.trans hroute)
  have hmethod : m.request.method = request.method := by rw [← hrequest, Request.method_bindAll]
  have hpath : m.request.path = request.path := by rw [← hrequest, Request.path_bindAll]
  refine ⟨c, hfind, hroute, hsublist, hmethod, hpath, ?_, ?_, ?_⟩
  · rw [← hrequest]
    exact hnames.bindAll c
  · rw [← hrequest]
    exact Request.attributes_bindAll hnames hnodup
  · -- the second match finds the same captures, and they are bound already
    rw [matchRequest_eq_ok_iff, hmethod, hpath, (table_of_ofTable hrouter).1]
    refine ⟨c, hfind, hroute, ?_⟩
    rw [← hrequest, Request.bindAll_bindAll hnodup]

/-- One of the captured values takes the place of a value that the request had, and the other comes
last. -/
theorem matchRequest_binds_pageRequest :
    Matcher.pageTable.Registered ∧ ofTable Matcher.pageTable {} = .ok pageRouter ∧
      pageRouter.matchRequest
          ((Request.ofUri "GET" "/a/7?q").bindAll [("part", "x"), ("name", "old")]) =
        .ok pageMatch ∧
      ∃ c, pageRouter.matcher.find "GET" "/a/7" = .matched 1 c ∧
        pageMatch.request.attributes =
          ([("part", "x"), ("name", "old")].map fun (name, value) =>
            (name, (c.lookup name).getD value)) ++
            c.filter (fun (name, _) => name ∉ ["part", "name"]) ∧
        pageRouter.matchRequest pageMatch.request = .ok pageMatch := by
  have hrequest : (Request.ofUri "GET" "/a/7?q").bindAll [("part", "x"), ("name", "old")] =
      pageRequest := by decide +kernel
  have hmatch : pageRouter.matchRequest
      ((Request.ofUri "GET" "/a/7?q").bindAll [("part", "x"), ("name", "old")]) =
        .ok pageMatch := by
    rw [hrequest]
    exact matchRequest_pageRequest
  obtain ⟨c, hfind, -, -, -, -, -, hattributes, hagain⟩ :=
    matchRequest_binds Matcher.registered_pageTable ofTable_pageTable hmatch
  rw [hrequest] at hfind hattributes
  exact ⟨Matcher.registered_pageTable, ofTable_pageTable, hmatch, c, hfind, hattributes, hagain⟩

end HttpRouting.Router
