/-
Searching with one pattern per route.

* `RoutePattern.captures_of_ofRoute?`: the pattern of a route gives the values at the spans of the
  first way in which the route takes the path;
* `PatternPerRoute.answers`: the answer that the pattern of each route gives;
* `PatternPerRoute.find_decides_answers`: the search gives the outcome that these call for;
* `PatternPerRoute.find_decides`: without anchors, it gives the outcome that the spans call for.
-/
import HttpRouting.Matching.PatternPerRoute
import HttpRouting.Proofs.Matching.Spans

namespace HttpRouting

variable {α : Type}

lemma RoutePattern.method_of_ofRoute? {r : Route α} {q : RoutePattern} (h : ofRoute? r = some q) :
    q.method = r.method := by
  obtain ⟨p, -, rfl⟩ := Option.map_eq_some_iff.1 h
  rfl

/-- The pattern of a route captures the values at the spans of the first way that takes the path. -/
lemma RoutePattern.captures_of_ofRoute? {r : Route α} {q : RoutePattern} (h : ofRoute? r = some q)
    (htypes : r.registry.IsSelfContained) (path : List Char) :
    (q.pattern.match? path).map (captureAll · q.bindings) =
      (r.spans? path).map (slices path r.path.attributeNames) := by
  obtain ⟨p, hp, rfl⟩ := Option.map_eq_some_iff.1 h
  dsimp only
  have hmeans := means_pathNotation (r.path.typesStandAlone htypes.standsAlone) 0
  rw [match?_anchored hmeans hp, pathRun_atEnd htypes, Option.map_map, Option.map_map]
  congr 1
  funext spans
  have hcaptures := captureAll_marksOf path r.path.attributeNames spans 0 [] []
    (fun mark hm => nomatch hm) fun mark hm => nomatch hm
  rw [List.nil_append, List.append_nil] at hcaptures
  exact hcaptures

namespace PatternPerRoute

/-- The answer that the pattern of each route gives. -/
def answers (p : PatternPerRoute) (path : List Char) : Answers :=
  p.routes.map fun q => (q.method, (q.pattern.match? path).map (captureAll · q.bindings))

/-- Searching the patterns of routes is trying their answers. -/
lemma findFrom_eq_search (method : String) (path : List Char) (qs : List RoutePattern)
    (allowed : AllowedMethods) (index : Nat) :
    findFrom method path allowed index qs = Answers.search method allowed index
      (qs.map fun q => (q.method, (q.pattern.match? path).map (captureAll · q.bindings))) := by
  induction qs generalizing allowed index with
  | nil => rfl
  | cons q qs ih =>
      rw [findFrom, List.map_cons]
      cases q.pattern.match? path with
      | none => exact ih allowed (index + 1)
      | some m =>
          dsimp only [Option.map_some]
          rw [Answers.search, ih]

/-- **The search gives the outcome that the answers of the patterns call for.** -/
theorem find_decides_answers (p : PatternPerRoute) (method path : String) :
    Decides (p.answers path.toList) method (p.find method path) := by
  rw [find, findFrom_eq_search]
  exact Answers.search_decides method _

section OfTable

variable {t : RouteTable α} {p : PatternPerRoute}

/-- There is a pattern for each route, in their order. -/
lemma forall₂_ofTable? (h : ofTable? t = some p) :
    List.Forall₂ (fun r q => RoutePattern.ofRoute? r = some q) t.routes p.routes := by
  obtain ⟨qs, hqs, rfl⟩ := Option.map_eq_some_iff.1 h
  exact forall₂_of_mapM hqs

/-- The answers are those of the routes. -/
lemma map_fst_answers (h : ofTable? t = some p) (path : List Char) :
    (p.answers path).map (·.1) = t.routes.map (·.method) := by
  rw [answers, List.map_map]
  refine (map_eq_map_of_forall₂ ((forall₂_ofTable? h).imp fun r q hq => ?_)).symm
  exact (RoutePattern.method_of_ofRoute? hq).symm

/-- Without anchors, the answers are those that the spans give. -/
lemma answers_eq_sliceAnswers (h : ofTable? t = some p) (htypes : t.IsSelfContained)
    (path : List Char) : p.answers path = t.sliceAnswers path := by
  have hall := (List.forall₂_and_left _ _).2 ⟨htypes, forall₂_ofTable? h⟩
  refine (map_eq_map_of_forall₂ (hall.imp fun r q hq => ?_)).symm
  rw [RoutePattern.method_of_ofRoute? hq.2, RoutePattern.captures_of_ofRoute? hq.2 hq.1]

/-- **Without anchors, the search gives the outcome that the spans call for.** -/
theorem find_decides (h : ofTable? t = some p) (htypes : t.IsSelfContained)
    (method path : String) : Decides (t.sliceAnswers path.toList) method (p.find method path) := by
  rw [← answers_eq_sliceAnswers h htypes]
  exact p.find_decides_answers method path

end OfTable

end PatternPerRoute

end HttpRouting
