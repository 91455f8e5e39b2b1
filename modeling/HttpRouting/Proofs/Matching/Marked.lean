/-
Searching with one pattern for all routes.

* `Answers.first?`: the first route with a method that takes the path;
* `RouteTable.markAnswers`: the answer that the run of each route gives;
* `MarkedPattern.Represents.read?_marks`: what the marks of a route tell;
* `MarkedPattern.Represents.lookup?_eq`: the first route with a method is found;
* `MarkedPattern.Represents.find_decides_markAnswers`: the search gives the outcome that the answers
  of the runs call for;
* `MarkedPattern.Represents.find_decides`: without anchors, it gives the outcome that the spans call
  for.
-/
import HttpRouting.Proofs.Matching.Reports

namespace HttpRouting

variable {α : Type}

/-! ### First routes -/

namespace Answers

/-- The first route with a method that takes the path, and its captures. -/
def first? (as : Answers) (m : Method) : Option (Nat × Captures) :=
  as.zipIdx.findSome? fun a => if a.1.1 = m then a.1.2.map (a.2, ·) else none

variable {as : Answers} {m : Method}

lemma first?_eq_some {i : Nat} {c : Captures} (h : as.first? m = some (i, c)) :
    as[i]? = some (m, some c) ∧ IsLeast {j | as.Hit m j} i := by
  obtain ⟨before, ⟨⟨m', c'⟩, i'⟩, after, hsplit, hfound, hbefore⟩ := List.findSome?_eq_some_iff.1 h
  obtain ⟨hm, hmap⟩ := Option.ite_none_right_eq_some.1 hfound
  obtain ⟨c, rfl, he⟩ := Option.map_eq_some_iff.1 hmap
  cases hm
  cases he
  have hat : as[i']? = some (m', some c) := by
    rw [← List.mk_mem_zipIdx_iff_getElem?, hsplit]
    exact List.mem_append_right before List.mem_cons_self
  have hincreasing : (before ++ ((m', some c), i') :: after).Pairwise fun x y => x.2 < y.2 := by
    rw [← hsplit, ← List.pairwise_map, List.zipIdx_map_snd]
    exact List.pairwise_lt_range'
  -- an earlier route with the method would have been found before
  refine ⟨hat, ⟨c, hat⟩, fun j ⟨d, hd⟩ => ?_⟩
  rw [← List.mk_mem_zipIdx_iff_getElem?, hsplit] at hd
  rcases List.mem_append.1 hd with hd | hd
  · exact absurd (hbefore _ hd) (by simp)
  · rcases List.mem_cons.1 hd with he | hd
    · exact Nat.le_of_eq (congrArg Prod.snd he).symm
    · have hafter := (List.pairwise_cons.1 (List.pairwise_append.1 hincreasing).2.1).1
      exact Nat.le_of_lt (hafter _ hd)

lemma first?_eq_none (h : as.first? m = none) (i : Nat) : ¬ as.Hit m i := by
  rintro ⟨c, hc⟩
  have hnone := List.findSome?_eq_none_iff.1 h _ (List.mk_mem_zipIdx_iff_getElem?.2 hc)
  simp at hnone

end Answers

/-! ### Routes of a table -/

namespace RouteTable

/-- The methods of a table are those of its routes. -/
lemma mem_methods {t : RouteTable α} {m : Method} :
    m ∈ t.methods ↔ ∃ r ∈ t.routes, r.method = m := by
  suffices hfold : ∀ (rs : List (Route α)) (ms : List Method),
      m ∈ rs.foldl (fun ms r => if ms.contains r.method then ms else ms ++ [r.method]) ms ↔
        m ∈ ms ∨ ∃ r ∈ rs, r.method = m by
    simpa [methods] using hfold t.routes []
  intro rs
  induction rs with
  | nil => simp
  | cons r rs ih =>
      intro ms
      rw [List.foldl_cons, ih, List.exists_mem_cons_iff, ← or_assoc]
      refine or_congr_left ?_
      split
      · next hr =>
          refine (or_iff_left_of_imp ?_).symm
          rintro rfl
          exact List.contains_iff_mem.1 hr
      · rw [List.mem_append, List.mem_singleton, eq_comm]

/-- What is told of the routes of a table, with their indices. -/
lemma zipIdx_map_marked {β : Type} (t : RouteTable α) (f : MarkedRoute α → β) :
    (t.marked.map f).zipIdx = t.marked.map fun x => (f x, x.index) := by
  suffices hfrom : ∀ (rs : List (Route α)) (index number : Nat),
      ((markedFrom index number rs).map f).zipIdx index =
        (markedFrom index number rs).map fun x => (f x, x.index) from
    hfrom t.routes 0 0
  intro rs
  induction rs with
  | nil => exact fun _ _ => rfl
  | cons r rs ih =>
      intro index number
      rw [markedFrom, List.map_cons, List.zipIdx_cons, ih, List.map_cons]

end RouteTable

/-! ### Answers of runs -/

lemma name_of_mem_markAt {index position : Nat} {mark : Mark} (h : mark ∈ markAt index position) :
    mark.name = markName index := by
  rw [markAt, List.mem_pair] at h
  rcases h with rfl | rfl <;> rfl

/-- What the run of a route captures of a path that its own method follows. -/
def MarkedRoute.captures? (x : MarkedRoute α) (path : List Char) : Option Captures :=
  (x.run atEnd (.ofText (subject path x.route.method.name.toList))).map fun marks =>
    captureAll ⟨subject path x.route.method.name.toList, marks⟩ x.bindings

namespace RouteTable

/-- The answer that the run of each route gives. -/
def markAnswers (t : RouteTable α) (path : List Char) : Answers :=
  t.marked.map fun x => (x.route.method, x.captures? path)

variable {t : RouteTable α}

lemma route_mem_of_mem_marked {x : MarkedRoute α} (h : x ∈ t.marked) : x.route ∈ t.routes := by
  rw [← t.map_route_marked]
  exact List.mem_map_of_mem h

/-- The answers are those of the routes. -/
lemma map_fst_markAnswers (t : RouteTable α) (path : List Char) :
    (t.markAnswers path).map (·.1) = t.routes.map (·.method) := by
  rw [markAnswers, List.map_map, ← t.map_route_marked, List.map_map]
  rfl

/-- Without anchors, the answers are those that the spans give. -/
lemma markAnswers_eq_sliceAnswers (h : t.IsSelfContained) (path : List Char) :
    t.markAnswers path = t.sliceAnswers path := by
  rw [markAnswers, sliceAnswers, ← t.map_route_marked, List.map_map]
  refine List.map_congr_left fun x hx => Prod.ext rfl ?_
  have htypes := h x.route (route_mem_of_mem_marked hx)
  obtain ⟨position, hrun⟩ := pathRun_leafRun htypes path x.number x.index x.route.method
  rw [if_pos rfl] at hrun
  change (x.run atEnd _).map _ = (x.route.spans? path).map _
  rw [MarkedRoute.run, hrun, Option.map_map]
  -- the mark of the route is about a group of its own, and what follows the path is no value
  refine Option.map_congr fun spans hspans => ?_
  have hcaptures := captureAll_marksOf (subject path x.route.method.name.toList)
    x.route.path.attributeNames spans x.number [] (markAt x.index position)
    (fun mark hm => nomatch hm) fun mark hm i he =>
      groupName_ne_markName i x.index (he.symm.trans (name_of_mem_markAt hm))
  rw [List.nil_append] at hcaptures
  refine hcaptures.trans ?_
  rw [subject_eq, slices_append (Route.le_of_spans? htypes hspans)]

end RouteTable

/-! ### Reading matches -/

/-- What a match tells: the route whose mark it met, and the values of its attributes. -/
def MarkedPattern.read? (p : MarkedPattern) (m : Pattern.Match) : Option (Nat × Captures) :=
  (p.markedRoute? m).map fun index => (index, captureAll m (p.bindings[index]?.getD []))

/-- Only the mark of the route itself was met. -/
lemma isSome_group?_markName (text : List Char) {before : List Mark}
    (hbefore : ∀ mark ∈ before, ∃ i, mark.name = groupName i) (index position i : Nat) :
    (Pattern.Match.group? ⟨text, before ++ markAt index position⟩ (markName i)).isSome =
      (i == index) := by
  by_cases hi : i = index
  · subst hi
    rw [markAt, Pattern.Match.group?_append_span (position, position)]
    simp
  · rw [Pattern.Match.group?_eq_none]
    · simp [hi]
    · intro mark hmark
      rcases List.mem_append.1 hmark with hm | hm
      · obtain ⟨j, hname⟩ := hbefore mark hm
        rw [hname]
        exact groupName_ne_markName j i
      · rw [name_of_mem_markAt hm]
        exact fun he => hi (markName_inj he).symm

namespace MarkedPattern.Represents

variable {p : MarkedPattern} {t : RouteTable α}

/-- **The marks of a route tell its index and the values of its attributes.** -/
theorem read?_marks (h : p.Represents t) {x : MarkedRoute α} (hx : x ∈ t.marked)
    (text : List Char) {before : List Mark}
    (hbefore : ∀ mark ∈ before, ∃ i, mark.name = groupName i) (position : Nat) :
    p.read? ⟨text, before ++ markAt x.index position⟩ =
      some (x.index, captureAll ⟨text, before ++ markAt x.index position⟩ x.bindings) := by
  obtain ⟨-, hat⟩ := getElem?_index hx
  have hat : t.marked[x.index]? = some x := hat
  have hbindings : p.bindings[x.index]? = some x.bindings := by
    rw [h.bindings, List.getElem?_map, hat, Option.map_some]
  have hmarked : p.markedRoute? ⟨text, before ++ markAt x.index position⟩ = some x.index := by
    rw [markedRoute?, List.find?_range_eq_some]
    simp only [isSome_group?_markName text hbefore]
    refine ⟨beq_self_eq_true _, List.mem_range.2 (List.getElem?_eq_some_iff.1 hbindings).1, ?_⟩
    intro j hj
    simpa using Nat.ne_of_lt hj
  rw [read?, hmarked, Option.map_some, hbindings, Option.getD_some]

/-- **The first route with the method that takes the path is found.** -/
theorem lookup?_eq (h : p.Represents t) (htypes : t.TypesStandAlone) (path : List Char)
    (m : Method) : p.lookup? path m.name.toList = (t.markAnswers path).first? m := by
  have hlookup : p.lookup? path m.name.toList =
      (p.pattern?.bind fun e => e.2.match? (subject path m.name.toList)).bind p.read? := by
    rw [lookup?, Option.bind_assoc]
    have hread : ∀ q : Pattern.Match, p.read? q = (p.markedRoute? q).bind fun index =>
        some (index, captureAll q (p.bindings[index]?.getD [])) := fun q => Option.map_eq_bind
    rw [funext hread]
    rfl
  rw [hlookup, h.match?, Option.bind_map, Answers.first?, RouteTable.markAnswers,
    RouteTable.zipIdx_map_marked, List.findSome?_map]
  -- each route tells its answer by its marks
  refine findSome?_bind fun x hx => ?_
  rw [Function.comp_apply]
  cases hrun : x.run atEnd (.ofText (subject path m.name.toList)) with
  | none =>
      refine ⟨?_, fun _ => rfl⟩
      split
      · next hm =>
          have hm : x.route.method = m := hm
          rw [MarkedRoute.captures?, hm, hrun]
          rfl
      · rfl
  | some marks =>
      obtain ⟨rfl, before, position, rfl, hbefore⟩ :=
        MarkedRoute.marks_of_run (htypes x.route (RouteTable.route_mem_of_mem_marked hx)) hrun
      have hread := h.read?_marks hx (subject path x.route.method.name.toList) hbefore position
      rw [if_pos rfl, MarkedRoute.captures?, hrun]
      exact ⟨hread.symm, fun he => nomatch he⟩

/-- The methods that are allowed are those of the routes that take the path. -/
lemma allowed_lists (h : p.Represents t) (htypes : t.TypesStandAlone) (path : List Char) :
    Lists (t.markAnswers path).Hit (p.allowed path).toList := by
  have hnotes : (p.allowed path).Notes fun m i => ∃ m' ∈ p.methods,
      ((p.lookup? path m'.name.toList).map fun e => (m', e.1)) = some (m, i) := by
    refine AllowedMethods.notes_foldl _ (fun a m' => ?_) p.methods
    cases p.lookup? path m'.name.toList <;> rfl
  refine Lists.of_isLeast ((hnotes.congr fun m i => ?_).lists fun {m m' i} hi hi' =>
    hi.1.method_eq hi'.1)
  rw [h.methods]
  simp only [h.lookup?_eq htypes]
  constructor
  · rintro ⟨m', -, hm⟩
    obtain ⟨found, hfirst, he⟩ := Option.map_eq_some_iff.1 hm
    cases he
    exact (Answers.first?_eq_some hfirst).2
  · intro hi
    have hmethod : m ∈ t.methods := by
      obtain ⟨c, hc⟩ := hi.1
      obtain ⟨x, hx, he⟩ := List.mem_map.1 (List.mem_of_getElem? hc)
      exact RouteTable.mem_methods.2
        ⟨x.route, RouteTable.route_mem_of_mem_marked hx, congrArg Prod.fst he⟩
    refine ⟨m, hmethod, ?_⟩
    cases hfirst : (t.markAnswers path).first? m with
    | none => exact absurd hi.1 (Answers.first?_eq_none hfirst i)
    | some found =>
        obtain rfl := hi.unique (Answers.first?_eq_some hfirst).2
        rfl

/-- **The search gives the outcome that the answers of the runs call for.** -/
theorem find_decides_markAnswers (h : p.Represents t) (htypes : t.TypesStandAlone)
    (method path : String) : Decides (t.markAnswers path.toList) method (p.find method path) := by
  have hlists := h.allowed_lists htypes path.toList
  rw [find]
  by_cases hm : isMethodToken method
  · have hlookup := h.lookup?_eq htypes path.toList ⟨method, hm⟩
    rw [if_pos hm, hlookup]
    cases hfirst : (t.markAnswers path.toList).first? ⟨method, hm⟩ with
    | none =>
        refine .failed (fun m i hi he => ?_) hlists
        obtain rfl : m = ⟨method, hm⟩ := Method.eq_of_name_eq he
        exact Answers.first?_eq_none hfirst i hi
    | some found =>
        obtain ⟨hit, hleast⟩ := Answers.first?_eq_some hfirst
        exact .matched rfl hit fun j hj hhit => absurd (hleast.2 hhit) (Nat.not_le_of_lt hj)
  · rw [if_neg hm]
    exact .failed (fun m i _ he => hm (he ▸ m.isToken)) hlists

/-- **Without anchors, the search gives the outcome that the spans call for.** -/
theorem find_decides (h : p.Represents t) (htypes : t.IsSelfContained) (method path : String) :
    Decides (t.sliceAnswers path.toList) method (p.find method path) := by
  rw [← RouteTable.markAnswers_eq_sliceAnswers htypes]
  exact h.find_decides_markAnswers htypes.standsAlone.typesStandAlone method path

end MarkedPattern.Represents

end HttpRouting
