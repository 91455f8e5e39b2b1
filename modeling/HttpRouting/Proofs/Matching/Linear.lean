/-
Matching one route after the other meets its specification.

* `Route.Takes`: the path of a route stands for a text, with captures;
* `Route.captures?_isSome_iff`: the machine finds captures exactly if there are some;
* `RouteTable.answers`: the answer that the machine gives for each route;
* `LinearMatcher.find_decides`: the outcome is the one that these answers call for;
* `LinearMatcher.find_spec`: the outcome in terms of what the paths of the routes stand for.
-/
import HttpRouting.Matching.Linear
import HttpRouting.Proofs.Matching.Answers
import HttpRouting.Proofs.Matching.Machine

namespace HttpRouting

variable {α : Type}

/-! ### Routes -/

namespace Route

/-- The path of a route stands for a text, with captures. -/
def Takes (r : Route α) (path : List Char) (captures : Captures) : Prop :=
  r.path.Derives r.registry path captures

/-- The captures of the preferred way in which a route takes a path. -/
def captures? (r : Route α) (path : List Char) : Option Captures :=
  (Program.ofPath r.registry r.path).captures? path

/-- The captures that the machine finds are captures of the route. -/
lemma takes_of_captures? {r : Route α} {path : List Char} {c : Captures}
    (h : r.captures? path = some c) : r.Takes path c := by
  rw [captures?, Program.captures?_eq_find?_ways] at h
  obtain ⟨⟨rest, c'⟩, hw, rfl⟩ := Option.map_eq_some_iff.1 h
  obtain rfl : rest = [] := by simpa using List.find?_some hw
  exact Program.nil_mem_ways_ofPath_iff.1 (List.mem_of_find?_eq_some hw)

/-- The machine finds captures exactly if the route takes the path. -/
lemma captures?_isSome_iff {r : Route α} {path : List Char} :
    (r.captures? path).isSome ↔ ∃ c, r.Takes path c := by
  constructor
  · intro h
    obtain ⟨c, hc⟩ := Option.isSome_iff_exists.1 h
    exact ⟨c, takes_of_captures? hc⟩
  · rintro ⟨c, hc⟩
    rw [captures?, Program.captures?_eq_find?_ways, Option.isSome_map, List.find?_isSome]
    exact ⟨([], c), Program.nil_mem_ways_ofPath_iff.2 hc, rfl⟩

end Route

/-! ### Tables -/

namespace RouteTable

/-- The answer that the machine gives for each route of a table. -/
def answers (t : RouteTable α) (path : List Char) : Answers :=
  t.routes.map fun r => (r.method, r.captures? path)

lemma answers_getElem?_eq_some_iff {t : RouteTable α} {path : List Char} {i : Nat} {m : Method}
    {c : Captures} : (t.answers path)[i]? = some (m, some c) ↔
      ∃ r, t.get? i = some r ∧ r.method = m ∧ r.captures? path = some c := by
  simp [answers, get?]

/-- The routes that answer are those that take the path. -/
lemma hit_answers_iff {t : RouteTable α} {path : List Char} {m : Method} {i : Nat} :
    (t.answers path).Hit m i ↔
      ∃ r, t.get? i = some r ∧ r.method = m ∧ ∃ c, r.Takes path c := by
  simp only [Answers.Hit, answers_getElem?_eq_some_iff, ← Route.captures?_isSome_iff,
    Option.isSome_iff_exists]
  constructor
  · rintro ⟨c, r, hr, hm, hc⟩
    exact ⟨r, hr, hm, c, hc⟩
  · rintro ⟨r, hr, hm, c, hc⟩
    exact ⟨c, r, hr, hm, hc⟩

/-- Every route of a table stands at some index. -/
lemma exists_get?_of_mem {t : RouteTable α} {r : Route α} (h : r ∈ t.routes) :
    ∃ i, t.get? i = some r :=
  List.mem_iff_getElem?.1 h

end RouteTable

/-! ### The outcome -/

namespace LinearMatcher

lemma findFrom_eq_search (method : String) (path : List Char) (rs : List (Method × Program))
    (allowed : AllowedMethods) (index : Nat) :
    findFrom method path allowed index rs =
      Answers.search method allowed index (rs.map fun r => (r.1, r.2.captures? path)) := by
  induction rs generalizing allowed index with
  | nil => rfl
  | cons r rs ih =>
      obtain ⟨m, p⟩ := r
      rw [findFrom, List.map_cons]
      cases hp : p.captures? path with
      | none => exact ih allowed (index + 1)
      | some c => rw [Answers.search, ← ih]

/-- The outcome is the one that the answers of the machine call for. -/
theorem find_decides (t : RouteTable α) (method path : String) :
    Decides (t.answers path.toList) method ((ofTable t).find method path) := by
  have h := Answers.search_decides method (t.answers path.toList)
  rwa [find, findFrom_eq_search, ofTable, List.map_map]

/-- **The specification of matching.** A match is the first route with the method whose path stands
for the path of the request. A failure means that there is none, and it lists the methods of the
routes whose paths stand for it. -/
theorem find_spec (t : RouteTable α) (method path : String) :
    (∀ i c, (ofTable t).find method path = .matched i c →
      ∃ r, t.get? i = some r ∧ r.method.name = method ∧ r.Takes path.toList c ∧
        ∀ j < i, ∀ s, t.get? j = some s → s.method.name = method → ∀ d, ¬ s.Takes path.toList d) ∧
    ((∃ allowed, (ofTable t).find method path = .failed allowed) ↔
      ∀ r ∈ t.routes, r.method.name = method → ∀ c, ¬ r.Takes path.toList c) ∧
    ∀ allowed, (ofTable t).find method path = .failed allowed →
      (allowed.map (·.1)).Nodup ∧ allowed.Pairwise (fun x y => x.2 < y.2) ∧
      (∀ m i, (m, i) ∈ allowed ↔
        IsLeast {j | ∃ r, t.get? j = some r ∧ r.method = m ∧ ∃ c, r.Takes path.toList c} i) ∧
      (allowed = [] ↔ ∀ r ∈ t.routes, ∀ c, ¬ r.Takes path.toList c) := by
  have hdec := find_decides t method path
  refine ⟨?matched, ?failed, ?allowed⟩
  case matched =>
    intro i c hf
    rw [hf] at hdec
    cases hdec with
    | @matched m _ _ name hit first =>
        obtain ⟨r, hr, rfl, hc⟩ := RouteTable.answers_getElem?_eq_some_iff.1 hit
        refine ⟨r, hr, name, Route.takes_of_captures? hc, fun j hj s hs hm d hd => ?_⟩
        have hsm : s.method = r.method := Method.eq_of_name_eq (hm.trans name.symm)
        exact first j hj (RouteTable.hit_answers_iff.2 ⟨s, hs, hsm, d, hd⟩)
  case failed =>
    constructor
    · rintro ⟨allowed, hf⟩ r hr hm c hc
      rw [hf] at hdec
      cases hdec with
      | failed none lists =>
          obtain ⟨i, hi⟩ := RouteTable.exists_get?_of_mem hr
          exact none r.method i (RouteTable.hit_answers_iff.2 ⟨r, hi, rfl, c, hc⟩) hm
    · intro hnone
      rcases ho : (ofTable t).find method path with ⟨i, c⟩ | allowed
      · rw [ho] at hdec
        cases hdec with
        | @matched m _ _ name hit first =>
            obtain ⟨r, hr, rfl, hc⟩ := RouteTable.answers_getElem?_eq_some_iff.1 hit
            exact absurd (Route.takes_of_captures? hc) (hnone r (List.mem_of_getElem? hr) name c)
      · exact ⟨allowed, rfl⟩
  case allowed =>
    intro allowed hf
    rw [hf] at hdec
    cases hdec with
    | failed none lists =>
        have hlists := lists.congr fun m i => RouteTable.hit_answers_iff (m := m) (i := i)
        refine ⟨hlists.nodup_methods, hlists.increasing, hlists.mem_iff, ?_⟩
        rw [hlists.eq_nil_iff]
        constructor
        · intro h r hr c hc
          obtain ⟨i, hi⟩ := RouteTable.exists_get?_of_mem hr
          exact h r.method i ⟨r, hi, rfl, c, hc⟩
        · rintro h m i ⟨r, hi, -, c, hc⟩
          exact h r (List.mem_of_getElem? hi) c hc

end LinearMatcher

end HttpRouting
