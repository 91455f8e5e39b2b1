/-
What the methods that would have been allowed promise for other requests of a path.

* `Decides.matched_iff_mem`: after a failure, the requests that match are those with a listed method;
* `Decides.getElem?_of_mem`, `Decides.name_ne_of_mem`: what is listed;
* `Matcher.answersOf`: the answers of the routes that a matcher goes by;
* `Matcher.find_decides_answersOf`: its outcomes are those that these call for;
* `Matcher.exists_answers`: so it goes by the same answers, whatever the method;
* `Matcher.allowed_truthful`: so the list of a failure is true of all requests of the path.
-/
import HttpRouting.Proofs.Matching.Agreement

namespace HttpRouting

/-! ### Outcomes of one path -/

namespace Decides

variable {as : Answers} {method method' : String} {allowed allowed' : List (Method × Nat)}
  {m : Method} {i : Nat}

/-- What a failure lists. -/
lemma lists_of_failed (h : Decides as method (.failed allowed)) : Lists as.Hit allowed := by
  cases h with
  | failed _ lists => exact lists

/-- After a failure, a request of the path matches a route exactly if its method is listed with
that route. -/
lemma matched_iff_mem {o : Outcome} (h : Decides as method (.failed allowed))
    (h' : Decides as method' o) :
    (∃ c, o = .matched i c) ↔ ∃ m, m.name = method' ∧ (m, i) ∈ allowed := by
  simp only [h.lists_of_failed.mem_iff]
  cases h' with
  | @matched m j c name hit first =>
      have hleast : IsLeast {k | as.Hit m k} j :=
        ⟨⟨c, hit⟩, fun k hk => Nat.le_of_not_lt fun hlt => first k hlt hk⟩
      constructor
      · rintro ⟨_, he⟩
        cases he
        exact ⟨m, name, hleast⟩
      · rintro ⟨m', name', hi⟩
        obtain rfl : m' = m := Method.eq_of_name_eq (name'.trans name.symm)
        rw [hi.unique hleast]
        exact ⟨c, rfl⟩
  | failed none _ =>
      constructor
      · rintro ⟨_, he⟩
        cases he
      · rintro ⟨m, name, hi⟩
        exact absurd name (none m i hi.1)

/-- All failures of a path list the same methods. -/
lemma allowed_eq (h : Decides as method (.failed allowed))
    (h' : Decides as method' (.failed allowed')) : allowed' = allowed :=
  h'.lists_of_failed.unique h.lists_of_failed

/-- A method is listed with a route that has it. -/
lemma getElem?_of_mem (h : Decides as method (.failed allowed)) (hm : (m, i) ∈ allowed) :
    (as.map (·.1))[i]? = some m := by
  obtain ⟨c, hc⟩ := ((h.lists_of_failed.mem_iff m i).1 hm).1
  rw [List.getElem?_map, hc, Option.map_some]

/-- The method of the request is not listed. -/
lemma name_ne_of_mem (h : Decides as method (.failed allowed)) (hm : (m, i) ∈ allowed) :
    m.name ≠ method := by
  cases h with
  | failed none lists => exact none m i ((lists.mem_iff m i).1 hm).1

end Decides

/-! ### Outcomes of strategies -/

namespace Matcher

variable {α : Type} {t : RouteTable α} {s : Strategy} {m : Matcher}

/-- The answers of the routes of a table that a matcher goes by. Which ones these are depends on the
strategy, because anchors see what follows the path. -/
def answersOf (t : RouteTable α) : Matcher → List Char → Answers
  | multiPattern p => p.answers
  | singlePattern _ | treePattern _ => t.markAnswers
  | linear _ | tree _ => t.answers

/-- There is an answer for each route. -/
lemma map_fst_answersOf (h : compile t s = .ok m) (path : List Char) :
    (m.answersOf t path).map (·.1) = t.routes.map (·.method) := by
  have hcompile := compile?_eq_some h
  cases s with
  | multiPattern =>
      obtain ⟨p, hp, rfl⟩ := Option.map_eq_some_iff.1 hcompile
      exact PatternPerRoute.map_fst_answers hp path
  | singlePattern | treePattern =>
      obtain ⟨p, hp, rfl⟩ := Option.map_eq_some_iff.1 hcompile
      exact t.map_fst_markAnswers path
  | linear | tree =>
      cases h
      rw [answersOf, RouteTable.answers, List.map_map]
      rfl

/-- **A matcher gives the outcome that the answers call for that it goes by.** -/
theorem find_decides_answersOf (htypes : t.TypesStandAlone) (h : compile t s = .ok m)
    (method path : String) :
    Decides (m.answersOf t path.toList) method (m.find method path) := by
  have hcompile := compile?_eq_some h
  cases s with
  | multiPattern =>
      obtain ⟨p, hp, rfl⟩ := Option.map_eq_some_iff.1 hcompile
      exact p.find_decides_answers method path
  | singlePattern =>
      obtain ⟨p, hp, rfl⟩ := Option.map_eq_some_iff.1 hcompile
      have hrep := MarkedPattern.represents_ofTable? htypes hp
      exact hrep.find_decides_markAnswers htypes method path
  | treePattern =>
      obtain ⟨p, hp, rfl⟩ := Option.map_eq_some_iff.1 hcompile
      have hrep := MarkedPattern.represents_ofForest? htypes hp
      exact hrep.find_decides_markAnswers htypes method path
  | linear | tree =>
      have hdec := find_decides_answers rfl h method path
      cases h
      exact hdec

/-- A matcher goes by the same answers of the routes, whatever the method. -/
theorem exists_answers (htypes : t.StandsAlone) (h : compile t s = .ok m) (path : String) :
    ∃ as : Answers, as.map (·.1) = t.routes.map (·.method) ∧
      ∀ method, Decides as method (m.find method path) :=
  ⟨m.answersOf t path.toList, map_fst_answersOf h path.toList, fun method =>
    find_decides_answersOf htypes.typesStandAlone h method path⟩

/-- **The methods that would have been allowed are the truth about the path.** After a failure, a
request of the same path matches a route exactly if its method is listed with that route, and
another failure has the same list. It lists each method once, with a route of that method, in the
order of the routes, and never the method of the request. -/
theorem allowed_truthful (htypes : t.StandsAlone) (h : compile t s = .ok m) {method path : String}
    {allowed : List (Method × Nat)} (hfailed : m.find method path = .failed allowed) :
    (∀ method' i, (∃ c, m.find method' path = .matched i c) ↔
      ∃ a, a.name = method' ∧ (a, i) ∈ allowed) ∧
    (∀ method' allowed', m.find method' path = .failed allowed' → allowed' = allowed) ∧
    (∀ a i, (a, i) ∈ allowed → ∃ r, t.get? i = some r ∧ r.method = a) ∧
    (allowed.map (·.1)).Nodup ∧
    allowed.Pairwise (fun x y => x.2 < y.2) ∧
    ∀ a i, (a, i) ∈ allowed → a.name ≠ method := by
  obtain ⟨as, hmethods, hdecides⟩ := exists_answers htypes h path
  have hdec := hdecides method
  rw [hfailed] at hdec
  have hlists := hdec.lists_of_failed
  refine ⟨fun method' i => hdec.matched_iff_mem (hdecides method'), fun method' allowed' he => ?_,
    fun a i hi => ?_, hlists.nodup_methods, hlists.increasing, fun a i hi => hdec.name_ne_of_mem hi⟩
  · have hdec' := hdecides method'
    rw [he] at hdec'
    exact hdec.allowed_eq hdec'
  · have hat := hdec.getElem?_of_mem hi
    rw [hmethods, List.getElem?_map] at hat
    exact Option.map_eq_some_iff.1 hat

/-- A registry of one type, which asks for the edges of words. -/
def edgeRegistry : TypeRegistry :=
  (TypeRegistry.ofDeclarations [⟨"word", "\\b[a-z]+\\b|[0-9]+$", true⟩]).toOption.get
    (by decide +kernel)

/-- Three routes of this type, two of which have the same method. -/
def edgeTable : RouteTable Unit :=
  ((do
    let put ← Route.methodOf "PUT"
    let get ← Route.methodOf "GET"
    let first ← (RouteTable.empty edgeRegistry).add put "/\x7ba\x7d" ()
    first.1.addMethods [get, put] "/\x7ba\x7d[-\x7bb\x7d]" () :
      Except RouteError (RouteTable Unit × List Nat)).toOption.get (by decide +kernel)).1

/-- The pattern with the trees of these routes side by side. -/
def edgePattern : MarkedPattern :=
  (MarkedPattern.ofForest? edgeTable (Forest.ofTable edgeTable)).get (by decide +kernel)

/-- Every failure on this path lists the methods of the two routes that take it. -/
theorem allowed_truthful_edgeTable :
    edgeTable.StandsAlone ∧ compile edgeTable .treePattern = .ok (treePattern edgePattern) ∧
      find (treePattern edgePattern) "POST" "/a-b" =
        .failed [(⟨"GET", by decide⟩, 1), (⟨"PUT", by decide⟩, 2)] ∧
      ∀ method' allowed', find (treePattern edgePattern) method' "/a-b" = .failed allowed' →
        allowed' = [(⟨"GET", by decide⟩, 1), (⟨"PUT", by decide⟩, 2)] := by
  have htypes : edgeTable.StandsAlone := by decide +kernel
  have hcompile : compile edgeTable .treePattern = .ok (treePattern edgePattern) :=
    compile_treePattern (Option.some_get _).symm
  have hlookup : edgePattern.lookup? "/a-b".toList "POST".toList = none := by decide +kernel
  have hallowed : edgePattern.allowed "/a-b".toList =
      ⟨[(⟨"PUT", by decide⟩, 2), (⟨"GET", by decide⟩, 1)]⟩ := by decide +kernel
  have hsorted : AllowedMethods.toList ⟨[(⟨"PUT", by decide⟩, 2), (⟨"GET", by decide⟩, 1)]⟩ =
      [(⟨"GET", by decide⟩, 1), (⟨"PUT", by decide⟩, 2)] := by
    simp [AllowedMethods.toList, List.mergeSort]
  have hfailed : find (treePattern edgePattern) "POST" "/a-b" =
      .failed [(⟨"GET", by decide⟩, 1), (⟨"PUT", by decide⟩, 2)] := by
    rw [find, MarkedPattern.find, hlookup, hallowed, ite_self]
    exact congrArg Outcome.failed hsorted
  exact ⟨htypes, hcompile, hfailed, (allowed_truthful htypes hcompile hfailed).2.1⟩

end Matcher

end HttpRouting
