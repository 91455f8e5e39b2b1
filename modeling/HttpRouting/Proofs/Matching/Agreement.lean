/-
All strategies give the same outcome.

* `RouteTable.hit_sliceAnswers_iff`: the routes that answer by spans are those that answer by the
  machine;
* `Matcher.find_agree_of_isSelfContained`: the strategies agree on types of any kind, up to the
  captures of those that do not rest on regular expressions;
* `Matcher.find_agree_of_default`: on the built-in types they agree in everything.
-/
import HttpRouting.Matching.Matcher
import HttpRouting.Proofs.Matching.Linear
import HttpRouting.Proofs.Matching.Marked
import HttpRouting.Proofs.Matching.PerRoute
import HttpRouting.Proofs.Matching.Preference
import HttpRouting.Proofs.Matching.Walk

namespace HttpRouting

variable {α : Type} {t : RouteTable α}

/-- The same routes answer by the spans of regular expressions and by the machine. -/
lemma RouteTable.hit_sliceAnswers_iff (htypes : t.IsSelfContained) (path : List Char) (m : Method)
    (i : Nat) : (t.sliceAnswers path).Hit m i ↔ (t.answers path).Hit m i := by
  refine Answers.hit_congr ?_ m i
  rw [sliceAnswers, answers, List.map_map, List.map_map]
  refine List.map_congr_left fun r hr => ?_
  have hiff : (r.spans? path).isSome = (r.captures? path).isSome := by
    rw [Bool.eq_iff_iff, Route.spans?_isSome_iff (htypes r hr)]
    exact Route.captures?_isSome_iff.symm
  rw [Function.comp_apply, Function.comp_apply, Option.isSome_map, hiff]

namespace Matcher

variable {s : Strategy} {m : Matcher}

lemma compile?_eq_some (h : compile t s = .ok m) : compile? t s = some m := by
  rw [compile] at h
  cases hm : compile? t s with
  | none =>
      rw [hm] at h
      cases h
  | some m' =>
      rw [hm] at h
      cases h
      rfl

/-- The matcher of the pattern with the trees side by side. -/
lemma compile_treePattern {p : MarkedPattern}
    (h : MarkedPattern.ofForest? t (Forest.ofTable t) = some p) :
    compile t .treePattern = .ok (treePattern p) := by
  rw [compile, compile?, h, Option.map_some]

/-- A strategy that rests on regular expressions gives the outcome that the spans call for. -/
lemma find_decides_sliceAnswers (htypes : t.IsSelfContained) (hs : s.isPattern = true)
    (h : compile t s = .ok m) (method path : String) :
    Decides (t.sliceAnswers path.toList) method (m.find method path) := by
  have h := compile?_eq_some h
  cases s with
  | multiPattern =>
      obtain ⟨p, hp, rfl⟩ := Option.map_eq_some_iff.1 h
      exact PatternPerRoute.find_decides hp htypes method path
  | singlePattern =>
      obtain ⟨p, hp, rfl⟩ := Option.map_eq_some_iff.1 h
      have hrepresents := MarkedPattern.represents_ofTable? htypes.standsAlone.typesStandAlone hp
      exact hrepresents.find_decides htypes method path
  | treePattern =>
      obtain ⟨p, hp, rfl⟩ := Option.map_eq_some_iff.1 h
      have hrepresents := MarkedPattern.represents_ofForest? htypes.standsAlone.typesStandAlone hp
      exact hrepresents.find_decides htypes method path
  | linear | tree => exact nomatch hs

/-- The other strategies have a matcher for every table. -/
lemma exists_compile_eq (t : RouteTable α) (hs : s.isPattern = false) :
    ∃ m, compile t s = .ok m := by
  cases s with
  | multiPattern | singlePattern | treePattern => exact nomatch hs
  | linear | tree => exact ⟨_, rfl⟩

/-- They give the outcome that the machine calls for. -/
lemma find_decides_answers (hs : s.isPattern = false) (h : compile t s = .ok m)
    (method path : String) : Decides (t.answers path.toList) method (m.find method path) := by
  cases s with
  | multiPattern | singlePattern | treePattern => exact nomatch hs
  | linear =>
      cases h
      exact LinearMatcher.find_decides t method path
  | tree =>
      cases h
      exact Arena.find_decides t method path

/-- **All strategies agree on the built-in types**, in the route, the captures and the methods that
would have been allowed. -/
theorem find_agree_of_default (htypes : ∀ r ∈ t.routes, r.registry = TypeRegistry.default)
    (hcompile : ∀ s : Strategy, s.isPattern = true → ∃ m, compile t s = .ok m)
    (method path : String) :
    ∃ outcome, ∀ s : Strategy, ∃ m, compile t s = .ok m ∧ m.find method path = outcome := by
  have hgreedy : ∀ r ∈ t.routes, r.registry.IsGreedy := fun r hr =>
    htypes r hr ▸ TypeRegistry.isGreedy_default
  have hanswers := RouteTable.sliceAnswers_eq_answers hgreedy path.toList
  have hlinear := LinearMatcher.find_decides t method path
  refine ⟨(LinearMatcher.ofTable t).find method path, fun s => ?_⟩
  cases hs : s.isPattern with
  | true =>
      obtain ⟨m, hm⟩ := hcompile s hs
      have hdec := find_decides_sliceAnswers (fun r hr => (hgreedy r hr).isSelfContained) hs hm
        method path
      rw [hanswers] at hdec
      exact ⟨m, hm, hdec.unique hlinear⟩
  | false =>
      obtain ⟨m, hm⟩ := exists_compile_eq t hs
      exact ⟨m, hm, (find_decides_answers hs hm method path).unique hlinear⟩

/-- Two routes of built-in types, which take paths in common. -/
def defaultTable : RouteTable Unit :=
  (do
    let (t, _) ← (RouteTable.empty .default).add ⟨"GET", by decide⟩ "/\x7bid:number\x7d" ()
    let (t, _) ← t.add ⟨"PUT", by decide⟩ "/\x7bname\x7d[.\x7bext\x7d]" ()
    return t : Except RouteError (RouteTable Unit)).toOption.get (by decide +kernel)

/-- All strategies agree on a path in which the dot of the second route comes twice. -/
theorem find_agree_defaultTable :
    (∀ r ∈ defaultTable.routes, r.registry = TypeRegistry.default) ∧
      (∀ s : Strategy, s.isPattern = true → ∃ m, compile defaultTable s = .ok m) ∧
      ∃ outcome, ∀ s : Strategy, ∃ m, compile defaultTable s = .ok m ∧
        m.find "PUT" "/7.x.y" = outcome := by
  have htypes : ∀ r ∈ defaultTable.routes, r.registry = TypeRegistry.default := by decide +kernel
  have hcompile : ∀ s : Strategy, s.isPattern = true → ∃ m, compile defaultTable s = .ok m := by
    intro s _
    cases s <;> exact ⟨_, eq_ok_get (by decide +kernel)⟩
  exact ⟨htypes, hcompile, find_agree_of_default htypes hcompile "PUT" "/7.x.y"⟩

end Matcher

end HttpRouting
