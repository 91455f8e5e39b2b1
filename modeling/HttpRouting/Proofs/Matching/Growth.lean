/-
Tables that grow.

* `Decides.append_of_matched`: a match is not touched by the answers of further routes;
* `Decides.concat_of_failed`: what one more answer makes of a failure;
* `Matcher.prefix_answersOf`: the answers of a table begin those of a longer one;
* `Matcher.find_push`: so a further route does not disturb the earlier ones.

How a route answers does not depend on the routes after it, although all routes of a table share one
forest, one pattern and one list of methods.
-/
import HttpRouting.Proofs.Matching.Allowed

namespace HttpRouting

/-! ### Further answers -/

section Answers

variable {as : Answers} {m : Method} {c : Captures} {method : String}
  {allowed : List (Method × Nat)}

/-- **A match is not touched by the answers of further routes.** -/
theorem Decides.append_of_matched {i : Nat} (h : Decides as method (.matched i c)) (bs : Answers) :
    Decides (as ++ bs) method (.matched i c) := by
  cases h with
  | @matched m _ _ name hit first =>
      have hlt : i < as.length := (List.getElem?_eq_some_iff.1 hit).1
      refine .matched name (by rwa [List.getElem?_append_left hlt]) fun j hj hhit => ?_
      exact first j hj ((Answers.hit_append_of_lt (Nat.lt_trans hj hlt)).1 hhit)

/-- The first route with a method stays the same, unless there was none. -/
lemma isLeast_hit_concat_iff {m' : Method} {i : Nat} :
    IsLeast {j | Answers.Hit (as ++ [(m, some c)]) m' j} i ↔
      IsLeast {j | as.Hit m' j} i ∨ (m', i) = (m, as.length) ∧ ∀ j, ¬ as.Hit m j := by
  constructor
  · rintro ⟨hi, hleast⟩
    have hbefore : ∀ j, as.Hit m' j → i ≤ j := fun j hj =>
      hleast (Answers.hit_append_some.2 (.inl hj))
    rcases Answers.hit_append_some.1 hi with hi | ⟨rfl, rfl⟩
    · exact .inl ⟨hi, hbefore⟩
    · exact .inr ⟨rfl, fun j hj => absurd hj.lt_length (Nat.not_lt_of_le (hbefore j hj))⟩
  · rintro (⟨hi, hleast⟩ | ⟨he, hnone⟩)
    · refine ⟨Answers.hit_append_some.2 (.inl hi), fun j hj => ?_⟩
      rcases Answers.hit_append_some.1 hj with hj | ⟨-, rfl⟩
      · exact hleast hj
      · exact Nat.le_of_lt hi.lt_length
    · cases he
      refine ⟨Answers.hit_append_some.2 (.inr ⟨rfl, rfl⟩), fun j hj => ?_⟩
      rcases Answers.hit_append_some.1 hj with hj | ⟨-, rfl⟩
      · exact absurd hj (hnone j)
      · exact Nat.le_refl _

/-- A further route with a method that is listed does not change the list. -/
lemma Lists.concat_of_hit (h : Lists as.Hit allowed) {i : Nat} (hi : as.Hit m i) :
    Lists (Answers.Hit (as ++ [(m, some c)])) allowed where
  increasing := h.increasing
  mem_iff m' j := by
    rw [h.mem_iff, isLeast_hit_concat_iff]
    exact (or_iff_left fun hnone => hnone.2 i hi).symm

/-- A further route with another method is listed last. -/
lemma Lists.concat_of_not_hit (h : Lists as.Hit allowed) (hnone : ∀ i, ¬ as.Hit m i) :
    Lists (Answers.Hit (as ++ [(m, some c)])) (allowed ++ [(m, as.length)]) where
  increasing := by
    refine List.pairwise_append.2 ⟨h.increasing, List.pairwise_singleton _ _, fun x hx y hy => ?_⟩
    obtain rfl := List.mem_singleton.1 hy
    exact ((h.mem_iff x.1 x.2).1 hx).1.lt_length
  mem_iff m' j := by
    rw [isLeast_hit_concat_iff, List.mem_append, List.mem_singleton, h.mem_iff]
    exact or_congr_right (and_iff_left hnone).symm

/-- **What one more answer makes of a failure**: a match of that route, or a failure that lists at
most that route besides. -/
theorem Decides.concat_of_failed (h : Decides as method (.failed allowed))
    (a : Method × Option Captures) :
    ∃ o, Decides (as ++ [a]) method o ∧
      ((∃ c, o = .matched as.length c) ∨ o = .failed allowed ∨
        o = .failed (allowed ++ [(a.1, as.length)])) := by
  obtain ⟨m, c?⟩ := a
  cases h with
  | failed hothers lists =>
      cases c? with
      | none =>
          have hlists : Lists (Answers.Hit (as ++ [(m, none)])) allowed :=
            lists.congr fun _ _ => Answers.hit_append_none.symm
          exact ⟨_, .failed (fun m' i hi => hothers m' i (Answers.hit_append_none.1 hi)) hlists,
            .inr (.inl rfl)⟩
      | some c =>
          by_cases hm : m.name = method
          · -- no earlier route has the method and takes the path
            refine ⟨_, .matched hm (by simp) fun j hj hhit => ?_, .inl ⟨c, rfl⟩⟩
            exact hothers m j ((Answers.hit_append_of_lt hj).1 hhit) hm
          · have hnone : ∀ m' i, Answers.Hit (as ++ [(m, some c)]) m' i → m'.name ≠ method := by
              intro m' i hi
              rcases Answers.hit_append_some.1 hi with hi | ⟨rfl, -⟩
              · exact hothers m' i hi
              · exact hm
            by_cases hlisted : ∃ i, as.Hit m i
            · obtain ⟨i, hi⟩ := hlisted
              exact ⟨_, .failed hnone (lists.concat_of_hit hi), .inr (.inl rfl)⟩
            · have hnew : ∀ i, ¬ as.Hit m i := fun i hi => hlisted ⟨i, hi⟩
              exact ⟨_, .failed hnone (lists.concat_of_not_hit hnew), .inr (.inr rfl)⟩

end Answers

/-! ### Answers of longer tables -/

variable {α : Type}

/-- Further routes do not change the numbers of earlier ones. -/
lemma prefix_markedFrom {rs rs' : List (Route α)} (h : rs <+: rs') (index number : Nat) :
    markedFrom index number rs <+: markedFrom index number rs' := by
  obtain ⟨others, rfl⟩ := h
  induction rs generalizing index number with
  | nil => exact List.nil_prefix
  | cons r rs ih =>
      rw [List.cons_append, markedFrom, markedFrom, List.cons_prefix_cons]
      exact ⟨rfl, ih _ _⟩

namespace Matcher

variable {t t' : RouteTable α} {s : Strategy} {m m' : Matcher}

/-- **The answers of a table begin those of a longer one.** -/
theorem prefix_answersOf (hp : t.routes <+: t'.routes) (h : compile t s = .ok m)
    (h' : compile t' s = .ok m') (path : List Char) :
    m.answersOf t path <+: m'.answersOf t' path := by
  have hm := compile?_eq_some h
  have hm' := compile?_eq_some h'
  cases s with
  | multiPattern =>
      obtain ⟨p, hp₁, rfl⟩ := Option.map_eq_some_iff.1 hm
      obtain ⟨p', hp', rfl⟩ := Option.map_eq_some_iff.1 hm'
      obtain ⟨qs, hqs, rfl⟩ := Option.map_eq_some_iff.1 hp₁
      obtain ⟨qs', hqs', rfl⟩ := Option.map_eq_some_iff.1 hp'
      exact (prefix_of_mapM hp hqs hqs').map _
  | singlePattern | treePattern =>
      obtain ⟨p, -, rfl⟩ := Option.map_eq_some_iff.1 hm
      obtain ⟨p', -, rfl⟩ := Option.map_eq_some_iff.1 hm'
      exact (prefix_markedFrom hp 0 0).map _
  | linear | tree =>
      cases hm
      cases hm'
      exact hp.map _

/-- A further route adds one answer. -/
lemma answersOf_push {r : Route α} {n : Nat} (hpush : t.push r = .ok (t', n))
    (h : compile t s = .ok m) (h' : compile t' s = .ok m') (path : List Char) :
    ∃ c?, m'.answersOf t' path = m.answersOf t path ++ [(r.method, c?)] := by
  have hroutes : t'.routes = t.routes ++ [r] := (RouteTable.routes_push hpush).1
  obtain ⟨others, he⟩ := prefix_answersOf ⟨[r], hroutes.symm⟩ h h' path
  have hmethods := map_fst_answersOf h' path
  rw [← he, hroutes, List.map_append, List.map_append, map_fst_answersOf h,
    List.append_cancel_left_eq] at hmethods
  obtain ⟨⟨a, c?⟩, rfl, ha⟩ := List.map_eq_singleton_iff.1 hmethods
  obtain rfl : a = r.method := ha
  exact ⟨c?, he.symm⟩

/-- There are as many answers as routes. -/
lemma length_answersOf (h : compile t s = .ok m) (path : List Char) :
    (m.answersOf t path).length = t.size := by
  have hmethods := congrArg List.length (map_fst_answersOf h path)
  rwa [List.length_map, List.length_map] at hmethods

/-- **A further route does not disturb the earlier ones.** A match stays as it is. A failure becomes
a match of the new route, or stays a failure whose list ends with the new route or is the same. -/
theorem find_push {r : Route α} {n : Nat} (htypes : t'.TypesStandAlone)
    (hpush : t.push r = .ok (t', n)) (h : compile t s = .ok m) (h' : compile t' s = .ok m')
    (method path : String) :
    n = t.size ∧
    (∀ i c, m.find method path = .matched i c → m'.find method path = .matched i c) ∧
    ∀ allowed, m.find method path = .failed allowed →
      (∃ c, m'.find method path = .matched n c) ∨ m'.find method path = .failed allowed ∨
        m'.find method path = .failed (allowed ++ [(r.method, n)]) := by
  obtain ⟨hroutes, rfl, -⟩ := RouteTable.routes_push hpush
  have htypes₀ : t.TypesStandAlone := fun r hr =>
    htypes r (hroutes ▸ List.mem_append_left _ hr)
  have hdec := find_decides_answersOf htypes₀ h method path
  have hdec' := find_decides_answersOf htypes h' method path
  obtain ⟨c?, hanswers⟩ := answersOf_push hpush h h' path.toList
  rw [hanswers] at hdec'
  refine ⟨rfl, fun i c hfind => ?_, fun allowed hfind => ?_⟩
  · rw [hfind] at hdec
    exact hdec'.unique (hdec.append_of_matched _)
  · rw [hfind] at hdec
    obtain ⟨o, ho, hcases⟩ := hdec.concat_of_failed (r.method, c?)
    rw [length_answersOf h] at hcases
    rwa [hdec'.unique ho]

/-- A further route of a type that asks for the edges of words. -/
def fixedRoute : Route Unit :=
  (Route.ofDefinition edgeRegistry ⟨"POST", by decide⟩ "/\x7ba\x7d-b" () none).toOption.get
    (by decide +kernel)

/-- The table with this route, and its index. -/
def grownTable : RouteTable Unit × Nat :=
  (edgeTable.push fixedRoute).toOption.get (by decide +kernel)

/-- The pattern with the trees of the longer table side by side. -/
def grownPattern : MarkedPattern :=
  (MarkedPattern.ofForest? grownTable.1 (Forest.ofTable grownTable.1)).get (by decide +kernel)

/-- The further route shares the beginning of its way with the others. -/
theorem find_push_edgeTable :
    grownTable.1.TypesStandAlone ∧ edgeTable.push fixedRoute = .ok grownTable ∧
      compile edgeTable .treePattern = .ok (treePattern edgePattern) ∧
      compile grownTable.1 .treePattern = .ok (treePattern grownPattern) ∧
      find (treePattern edgePattern) "PUT" "/a-b" = .matched 2 [("a", "a"), ("b", "b")] ∧
      find (treePattern grownPattern) "PUT" "/a-b" = .matched 2 [("a", "a"), ("b", "b")] ∧
      ∀ allowed, find (treePattern edgePattern) "POST" "/a-b" = .failed allowed →
        (∃ c, find (treePattern grownPattern) "POST" "/a-b" = .matched grownTable.2 c) ∨
          find (treePattern grownPattern) "POST" "/a-b" = .failed allowed ∨
          find (treePattern grownPattern) "POST" "/a-b" =
            .failed (allowed ++ [(fixedRoute.method, grownTable.2)]) := by
  have hstandsAlone : grownTable.1.StandsAlone := by decide +kernel
  have htypes := hstandsAlone.typesStandAlone
  have hpush : edgeTable.push fixedRoute = .ok grownTable := eq_ok_get _
  have hcompile : compile edgeTable .treePattern = .ok (treePattern edgePattern) :=
    compile_treePattern (Option.some_get _).symm
  have hcompile' : compile grownTable.1 .treePattern = .ok (treePattern grownPattern) :=
    compile_treePattern (Option.some_get _).symm
  have hfind : find (treePattern edgePattern) "PUT" "/a-b" =
      .matched 2 [("a", "a"), ("b", "b")] := by decide +kernel
  exact ⟨htypes, hpush, hcompile, hcompile', hfind,
    (find_push htypes hpush hcompile hcompile' "PUT" "/a-b").2.1 _ _ hfind,
    (find_push htypes hpush hcompile hcompile' "POST" "/a-b").2.2⟩

end Matcher

end HttpRouting
