/-
Writing the URI of a route and matching it undo each other.

* `Matcher.takes_of_find`: a match is of a route that takes the path, with these captures;
* `Matcher.exists_find_of_takes`: where a route takes a path, it or an earlier one is found;
* `Matcher.find_uri`: so the URI of a route is matched by this route or an earlier one;
* `Matcher.uri_captures`: the captures of a match make the path of the request again.

Both directions go by the texts that the path of a route stands for. Strategies that rest on regular
expressions find these if the patterns of types are ones on their own, without anchors.
-/
import HttpRouting.Proofs.Matching.Agreement
import HttpRouting.Proofs.Path.Uri
import HttpRouting.Proofs.Route.Registration

namespace HttpRouting

variable {α : Type} {t : RouteTable α}

/-! ### Matches -/

/-- A match is an answer. -/
lemma Decides.getElem?_of_matched {as : Answers} {method : String} {i : Nat} {c : Captures}
    (h : Decides as method (.matched i c)) : ∃ m, m.name = method ∧ as[i]? = some (m, some c) := by
  cases h with
  | matched name hit first => exact ⟨_, name, hit⟩

/-- Where a route with the method answers, there is a match, and of no later route. -/
lemma Decides.exists_matched {as : Answers} {m : Method} {o : Outcome} {i : Nat}
    (h : Decides as m.name o) (hit : as.Hit m i) : ∃ j c, o = .matched j c ∧ j ≤ i := by
  cases h with
  | @matched m' j c name _ first =>
      obtain rfl : m' = m := Method.eq_of_name_eq name
      exact ⟨j, c, rfl, Nat.le_of_not_lt fun hlt => first i hlt hit⟩
  | failed none lists => exact absurd rfl (none m i hit)

lemma RouteTable.sliceAnswers_getElem?_eq_some_iff {path : List Char} {i : Nat} {m : Method}
    {c : Captures} : (t.sliceAnswers path)[i]? = some (m, some c) ↔
      ∃ r, t.get? i = some r ∧ r.method = m ∧
        ∃ spans, r.spans? path = some spans ∧ slices path r.path.attributeNames spans = c := by
  simp [sliceAnswers, get?]

namespace Matcher

variable {s : Strategy} {m : Matcher}

/-- **A match is of a route that takes the path**, with these captures. -/
theorem takes_of_find (htypes : s.isPattern = true → t.IsSelfContained)
    (hcompile : compile t s = .ok m) {method path : String} {i : Nat} {c : Captures}
    (hfind : m.find method path = .matched i c) :
    ∃ r, t.get? i = some r ∧ r.method.name = method ∧ r.Takes path.toList c := by
  cases hs : s.isPattern with
  | true =>
      have hdec := find_decides_sliceAnswers (htypes hs) hs hcompile method path
      rw [hfind] at hdec
      obtain ⟨_, rfl, hat⟩ := hdec.getElem?_of_matched
      obtain ⟨r, hr, rfl, spans, hspans, rfl⟩ := RouteTable.sliceAnswers_getElem?_eq_some_iff.1 hat
      have hregistry := htypes hs r (List.mem_of_getElem? hr)
      exact ⟨r, hr, rfl, Route.derives_of_spans? hregistry hspans⟩
  | false =>
      have hdec := find_decides_answers hs hcompile method path
      rw [hfind] at hdec
      obtain ⟨_, rfl, hat⟩ := hdec.getElem?_of_matched
      obtain ⟨r, hr, rfl, hc⟩ := RouteTable.answers_getElem?_eq_some_iff.1 hat
      exact ⟨r, hr, rfl, Route.takes_of_captures? hc⟩

/-- **Where a route takes a path, it or an earlier route is found** for its method. -/
theorem exists_find_of_takes (htypes : s.isPattern = true → t.IsSelfContained)
    (hcompile : compile t s = .ok m) {path : String} {i : Nat} {r : Route α}
    (hr : t.get? i = some r) {c : Captures} (htakes : r.Takes path.toList c) :
    ∃ j d, m.find r.method.name path = .matched j d ∧ j ≤ i := by
  have hit : (t.answers path.toList).Hit r.method i :=
    RouteTable.hit_answers_iff.2 ⟨r, hr, rfl, c, htakes⟩
  cases hs : s.isPattern with
  | true =>
      have hdec := find_decides_sliceAnswers (htypes hs) hs hcompile r.method.name path
      exact hdec.exists_matched ((RouteTable.hit_sliceAnswers_iff (htypes hs) _ _ _).2 hit)
  | false =>
      have hdec := find_decides_answers hs hcompile r.method.name path
      exact hdec.exists_matched hit

/-! ### URIs -/

/-- **The URI of a route is matched by this route or an earlier one**, whatever values it is made
of. -/
theorem find_uri (htypes : s.isPattern = true → t.IsSelfContained) (hcompile : compile t s = .ok m)
    {i : Nat} {r : Route α} (hr : t.get? i = some r) {values : Values} {uri : String}
    (huri : r.uri values "" = .ok uri) :
    ∃ j c, m.find r.method.name uri = .matched j c ∧ j ≤ i := by
  have htakes : r.Takes uri.toList (r.path.valuesIn values) := Path.derives_of_uri huri
  exact exists_find_of_takes htypes hcompile hr htakes

/-- The method of the routes below. -/
def getMethod : Method :=
  (Method.ofString? "GET").get (by decide)

/-- A route of built-in types. -/
def numberTable : RouteTable Unit :=
  (((RouteTable.empty .default).add getMethod "/\x7bid:number\x7d" ()).toOption.get
    (by decide +kernel)).1

/-- A second route, with nested optional rests, which takes the paths of the first one as well. -/
def pageTable : RouteTable Unit :=
  ((numberTable.add getMethod "/\x7bname\x7d[/\x7bpage:number\x7d[-\x7bpart\x7d]]" ()).toOption.get
    (by decide +kernel)).1

/-- The pattern with the trees of these routes side by side. -/
def pagePattern : MarkedPattern :=
  (MarkedPattern.ofForest? pageTable (Forest.ofTable pageTable)).get (by decide +kernel)

/-- The second route. -/
def pageRoute : Route Unit :=
  (pageTable.get? 1).get (by decide +kernel)

lemma get?_pageTable : pageTable.get? 1 = some pageRoute :=
  (Option.some_get _).symm

lemma registered_pageTable : pageTable.Registered :=
  ((RouteTable.Registered.empty .default).add (eq_ok_get _)).add (eq_ok_get _)

lemma compile_pageTable : compile pageTable .treePattern = .ok (treePattern pagePattern) :=
  compile_treePattern (Option.some_get _).symm

lemma isSelfContained_pageTable : pageTable.IsSelfContained := by
  decide +kernel

/-- The first route takes a URI of the second one. -/
theorem find_uri_pageTable :
    (Strategy.isPattern .treePattern = true → pageTable.IsSelfContained) ∧
      compile pageTable .treePattern = .ok (treePattern pagePattern) ∧
      pageTable.get? 1 = some pageRoute ∧ pageRoute.uri [("name", "7")] "" = .ok "/7" ∧
      ∃ j c, find (treePattern pagePattern) pageRoute.method.name "/7" = .matched j c ∧ j ≤ 1 := by
  have huri : pageRoute.uri [("name", "7")] "" = .ok "/7" := by decide +kernel
  exact ⟨fun _ => isSelfContained_pageTable, compile_pageTable, get?_pageTable, huri,
    find_uri (fun _ => isSelfContained_pageTable) compile_pageTable get?_pageTable huri⟩

/-- **The captures of a match make the path of the request again**, if every optional rest of the
route declares an attribute of its own. -/
theorem uri_captures (hregistered : t.Registered) (htypes : s.isPattern = true → t.IsSelfContained)
    (hcompile : compile t s = .ok m) {method path : String} {i : Nat} {c : Captures}
    (hfind : m.find method path = .matched i c) :
    ∃ r, t.get? i = some r ∧ (r.path.optionalsDeclare = true → r.uri c "" = .ok path) := by
  obtain ⟨r, hr, -, htakes⟩ := takes_of_find htypes hcompile hfind
  have hvalid := (hregistered.isMade r (List.mem_of_getElem? hr)).validate
  have hnodup := (Path.validate_eq_ok_iff.1 hvalid).1
  refine ⟨r, hr, fun hdeclare => ?_⟩
  calc r.uri c "" = .ok (String.ofList path.toList) := Path.uri_of_derives htakes hnodup hdeclare
    _ = .ok path := by rw [String.ofList_toList]

/-- The match of a path that leaves the inner optional rest of the second route out makes this path
again. -/
theorem uri_captures_pageTable :
    pageTable.Registered ∧ (Strategy.isPattern .treePattern = true → pageTable.IsSelfContained) ∧
      compile pageTable .treePattern = .ok (treePattern pagePattern) ∧
      find (treePattern pagePattern) "GET" "/a/7" =
        .matched 1 [("name", "a"), ("page", "7")] ∧
      pageRoute.path.optionalsDeclare = true ∧
      ∃ r, pageTable.get? 1 = some r ∧ (r.path.optionalsDeclare = true →
        r.uri [("name", "a"), ("page", "7")] "" = .ok "/a/7") := by
  have hfind : find (treePattern pagePattern) "GET" "/a/7" =
      .matched 1 [("name", "a"), ("page", "7")] := by decide +kernel
  exact ⟨registered_pageTable, fun _ => isSelfContained_pageTable, compile_pageTable, hfind,
    by decide +kernel,
    uri_captures registered_pageTable (fun _ => isSelfContained_pageTable) compile_pageTable hfind⟩

end Matcher

end HttpRouting
