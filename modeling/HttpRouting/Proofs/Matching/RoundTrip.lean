/-
The values that a URI is made of come back as captures.

* `Matcher.captures_uri`: if slashes delimit the attributes of a route and its types are built in,
  a match of the route with its own URI captures the values of the URI.

Without such delimiters another list of values can make the same URI, and the match prefers the one
whose first values are longest.
-/
import HttpRouting.Proofs.Matching.Generation
import HttpRouting.Proofs.Path.Segments

namespace HttpRouting.Matcher

variable {α : Type} {t : RouteTable α} {s : Strategy} {m : Matcher}

/-- **A match of a route with its own URI captures the values of the URI**, if slashes delimit its
attributes. No later route is found. -/
theorem captures_uri (htypes : ∀ r ∈ t.routes, r.registry = TypeRegistry.default)
    (hcompile : compile t s = .ok m) {i : Nat} {r : Route α} (hr : t.get? i = some r)
    (hslash : r.path.isSlashDelimited = true) {values : Values} {uri : String}
    (huri : r.uri values "" = .ok uri) :
    ∃ j c, m.find r.method.name uri = .matched j c ∧ j ≤ i ∧
      (j = i → c = r.path.valuesIn values) := by
  have hself := RouteTable.isSelfContained_of_default htypes
  have hsegments : r.registry.StaysInSegments :=
    htypes r (List.mem_of_getElem? hr) ▸ TypeRegistry.staysInSegments_default
  have hwritten : r.Takes uri.toList (r.path.valuesIn values) := Path.derives_of_uri huri
  obtain ⟨j, c, hfind, hle⟩ := exists_find_of_takes (fun _ => hself) hcompile hr hwritten
  refine ⟨j, c, hfind, hle, ?_⟩
  rintro rfl
  obtain ⟨r', hr', -, hcaptured⟩ := takes_of_find (fun _ => hself) hcompile hfind
  obtain rfl : r' = r := Option.some.inj (hr'.symm.trans hr)
  exact hcaptured.values_unique hsegments hslash hwritten

/-- Two routes whose attributes are delimited by slashes. -/
def visitTable : RouteTable Unit :=
  ((do
    let first ← (RouteTable.empty .default).add getMethod "/\x7bid:number\x7d[/\x7btab\x7d]" ()
    first.1.add getMethod "/\x7bname\x7d[/on/\x7bday:date\x7d[/\x7bnote\x7d]]" () :
      Except RouteError (RouteTable Unit × Nat)).toOption.get (by decide +kernel)).1

/-- The pattern with the trees of these routes side by side. -/
def visitPattern : MarkedPattern :=
  (MarkedPattern.ofForest? visitTable (Forest.ofTable visitTable)).get (by decide +kernel)

/-- The second route. -/
def visitRoute : Route Unit :=
  (visitTable.get? 1).get (by decide +kernel)

/-- Values may hold what separates attributes elsewhere: dashes, dots, braces and line feeds. -/
theorem captures_uri_visitTable :
    (∀ r ∈ visitTable.routes, r.registry = TypeRegistry.default) ∧
      compile visitTable .treePattern = .ok (treePattern visitPattern) ∧
      visitTable.get? 1 = some visitRoute ∧ visitRoute.path.isSlashDelimited = true ∧
      visitRoute.uri [("note", "a\n-b"), ("name", "\x7bx\x7d.y"), ("day", "2024-02-29")] "" =
        .ok "/\x7bx\x7d.y/on/2024-02-29/a\n-b" ∧
      ∃ j c, find (treePattern visitPattern) visitRoute.method.name
          "/\x7bx\x7d.y/on/2024-02-29/a\n-b" = .matched j c ∧ j ≤ 1 ∧
        (j = 1 → c = [("name", "\x7bx\x7d.y"), ("day", "2024-02-29"), ("note", "a\n-b")]) := by
  have htypes : ∀ r ∈ visitTable.routes, r.registry = TypeRegistry.default := by decide +kernel
  have hcompile : compile visitTable .treePattern = .ok (treePattern visitPattern) :=
    compile_treePattern (Option.some_get _).symm
  have hr : visitTable.get? 1 = some visitRoute := (Option.some_get _).symm
  have hslash : visitRoute.path.isSlashDelimited = true := by decide +kernel
  have huri : visitRoute.uri
      [("note", "a\n-b"), ("name", "\x7bx\x7d.y"), ("day", "2024-02-29")] "" =
        .ok "/\x7bx\x7d.y/on/2024-02-29/a\n-b" := by decide +kernel
  have hvalues : visitRoute.path.valuesIn
      [("note", "a\n-b"), ("name", "\x7bx\x7d.y"), ("day", "2024-02-29")] =
        [("name", "\x7bx\x7d.y"), ("day", "2024-02-29"), ("note", "a\n-b")] := by decide +kernel
  have hfound := captures_uri htypes hcompile hr hslash huri
  rw [hvalues] at hfound
  exact ⟨htypes, hcompile, hr, hslash, huri, hfound⟩

end HttpRouting.Matcher
