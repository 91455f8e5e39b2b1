/-
The chains of a forest, and the ways along them.

* `chains_insert`: a route that is added is the last chain;
* `chains_ofTable`: the chains of the forest of a table are its routes, in their order;
* `Forest.isFull_ofTable`: below every branch of this forest there is a leaf;
* `Segment.ways`, `waysAlong`: the ways through a segment, and through several in a row;
* `ways_ofPath`: the ways through a path are those along its segments;
* `Forest.hits`: the leaves that a walk without shortcuts meets at the end of a path;
* `find?_hits`: the first hit of a leaf is the first way along its chain that takes the path.
-/
import HttpRouting.Forest.Basic
import HttpRouting.Matching.Ways
import Mathlib.Tactic.Lemma

namespace HttpRouting

/-! ### Chains -/

namespace Forest

/-- A route that is added becomes the last chain. -/
lemma chains_insert (index : Nat) (method : Method) (ss : List Segment) (f : Forest) :
    (f.insert index method ss).chains = f.chains ++ [(ss, index, method)] := by
  fun_induction insert index method ss f with
  | case1 ss => simp [chains]
  | case2 ss i m right ih => simp [chains, ih]
  | case3 s below right ih => simp [chains, ih]
  | case4 t ts below ih => simp [chains, ih]
  | case5 t ts s below hne => simp [chains]
  | case6 t ts s below right hright ih => simp [chains, ih]

/-- Routes that are added become the last chains, in their order. -/
lemma chains_insertAll {α : Type} (f : Forest) (index : Nat) (rs : List (Route α)) :
    (f.insertAll index rs).chains =
      f.chains ++ (rs.zipIdx index).map fun (r, i) =>
        (Segment.ofPath r.registry r.path, i, r.method) := by
  induction rs generalizing f index with
  | nil => simp [insertAll]
  | cons r rs ih => simp [insertAll, ih, chains_insert]

/-- **The chains of the forest of a table are its routes**, in their order. -/
theorem chains_ofTable {α : Type} (t : RouteTable α) :
    (ofTable t).chains =
      t.routes.zipIdx.map fun (r, i) => (Segment.ofPath r.registry r.path, i, r.method) := by
  rw [ofTable, chains_insertAll, chains, List.nil_append]

/-- The leaves of the forest of a table are the indices of its routes. -/
lemma leaves_ofTable {α : Type} (t : RouteTable α) : (ofTable t).leaves = List.range t.size := by
  rw [leaves_eq_map_chains, chains_ofTable, List.map_map]
  have hcomp : ((fun c : List Segment × Nat × Method => c.2.1) ∘
      fun (x : Route α × Nat) => (Segment.ofPath x.1.registry x.1.path, x.2, x.1.method)) =
      Prod.snd := rfl
  rw [hcomp, List.zipIdx_map_snd, RouteTable.size, List.range_eq_range']

/-- Below every branch there is a leaf. -/
def IsFull : Forest → Prop
  | empty => True
  | leaf _ _ right => right.IsFull
  | branch _ below right => below.chains ≠ [] ∧ below.IsFull ∧ right.IsFull

lemma isFull_chain (index : Nat) (method : Method) (ss : List Segment) :
    (chain index method ss).IsFull := by
  induction ss with
  | nil => exact trivial
  | cons s ss ih => exact ⟨by simp, ih, trivial⟩

/-- Adding a route leaves no branch without a leaf. -/
lemma IsFull.insert {f : Forest} (h : f.IsFull) (index : Nat) (method : Method)
    (ss : List Segment) : (f.insert index method ss).IsFull := by
  fun_induction Forest.insert index method ss f with
  | case1 ss => exact isFull_chain index method ss
  | case2 ss i m right ih => exact ih h
  | case3 s below right ih => exact ⟨h.1, h.2.1, ih h.2.2⟩
  | case4 t ts below ih => exact ⟨by simp [chains_insert], ih h.2.1, trivial⟩
  | case5 t ts s below hne => exact ⟨h.1, h.2.1, isFull_chain index method (t :: ts)⟩
  | case6 t ts s below right hright ih => exact ⟨h.1, h.2.1, ih h.2.2⟩

lemma IsFull.insertAll {α : Type} {f : Forest} (h : f.IsFull) (index : Nat) (rs : List (Route α)) :
    (f.insertAll index rs).IsFull := by
  induction rs generalizing f index with
  | nil => exact h
  | cons r rs ih => exact ih (h.insert index r.method _) (index + 1)

lemma isFull_ofTable {α : Type} (t : RouteTable α) : (ofTable t).IsFull :=
  IsFull.insertAll (f := empty) trivial 0 t.routes

end Forest

/-! ### Ways along segments -/

/-- The program of a segment alone. -/
def Segment.program : Segment → Program
  | literal text => .literal text.toList .done
  | attr name type => .capture name type .done
  | optional inner registry => .optional (Program.ofPath registry inner)

/-- The ways through a segment. -/
def Segment.ways (s : Segment) (cs : List Char) : List (List Char × Captures) :=
  s.program.ways cs

/-- The ways through several segments in a row. -/
def waysAlong : List Segment → List Char → List (List Char × Captures)
  | [], cs => [(cs, [])]
  | s :: ss, cs =>
    (s.ways cs).flatMap fun w => (waysAlong ss w.1).map fun w' => (w'.1, w.2 ++ w'.2)

/-- The ways through a path are those along its segments. -/
lemma ways_ofPath (registry : TypeRegistry) (p : Path) (cs : List Char) :
    (Program.ofPath registry p).ways cs = waysAlong (Segment.ofPath registry p) cs := by
  induction p generalizing cs with
  | empty => rfl
  | literal text next ih =>
      rw [Program.ofPath, Segment.ofPath, waysAlong, Segment.ways, Segment.program, Program.ways,
        Program.ways]
      cases stripPrefix? text.toList cs with
      | none => rfl
      | some rest => simp [Program.ways, ih]
  | attr name typeName next ih =>
      rw [Program.ofPath, Segment.ofPath, waysAlong, Segment.ways, Segment.program, Program.ways,
        Program.ways, List.flatMap_assoc]
      congr 1
      funext n
      split
      · simp [Program.ways, ih]
      · rfl
  | optional inner ih =>
      simp [Program.ofPath, Segment.ofPath, waysAlong, Segment.ways, Segment.program]

/-! ### Hits -/

namespace Forest

/-- A leaf met at the end of a path: the index and the method of its route, and the captures. -/
abbrev Hit := Nat × Method × Captures

/-- The leaves that are met at the end of a path, in the order of a walk that takes no shortcuts.
`bound` holds the captures so far, last first. -/
def hits (bound : Captures) : Forest → List Char → List Hit
  | empty, _ => []
  | leaf index method right, cs =>
    (if cs.isEmpty then [(index, method, bound.reverse)] else []) ++ right.hits bound cs
  | branch s below right, cs =>
    ((s.ways cs).flatMap fun w => below.hits (w.2.reverse ++ bound) w.1) ++ right.hits bound cs

/-- A hit is at a leaf of the forest. -/
lemma mem_leaves_of_mem_hits {f : Forest} {bound : Captures} {cs : List Char} {h : Hit}
    (hh : h ∈ f.hits bound cs) : h.1 ∈ f.leaves := by
  induction f generalizing bound cs with
  | empty => exact nomatch hh
  | leaf i m right ih =>
      rw [hits, List.mem_append] at hh
      rcases hh with hh | hh
      · split at hh
        · rw [List.mem_singleton.1 hh]
          exact List.mem_cons_self
        · exact nomatch hh
      · exact List.mem_cons_of_mem _ (ih hh)
  | branch s below right ihb ihr =>
      rw [hits, List.mem_append, List.mem_flatMap] at hh
      rcases hh with ⟨w, -, hh⟩ | hh
      · exact List.mem_append_left _ (ihb hh)
      · exact List.mem_append_right _ (ihr hh)

/-- Where a leaf is met does not depend on the captures so far. -/
lemma exists_mem_hits {f : Forest} {bound : Captures} {cs : List Char} {h : Hit}
    (hh : h ∈ f.hits bound cs) (bound' : Captures) : ∃ h' ∈ f.hits bound' cs, h'.1 = h.1 := by
  induction f generalizing bound bound' cs with
  | empty => exact nomatch hh
  | leaf i m right ih =>
      rw [hits, List.mem_append] at hh
      rcases hh with hh | hh
      · split at hh
        · next he =>
            rw [List.mem_singleton.1 hh]
            exact ⟨(i, m, bound'.reverse), by simp [hits, he], rfl⟩
        · exact nomatch hh
      · obtain ⟨h', hm, he⟩ := ih hh bound'
        exact ⟨h', List.mem_append_right _ hm, he⟩
  | branch s below right ihb ihr =>
      rw [hits, List.mem_append, List.mem_flatMap] at hh
      rcases hh with ⟨w, hw, hh⟩ | hh
      · obtain ⟨h', hm, he⟩ := ihb hh (w.2.reverse ++ bound')
        exact ⟨h', List.mem_append_left _ (List.mem_flatMap.2 ⟨w, hw, hm⟩), he⟩
      · obtain ⟨h', hm, he⟩ := ihr hh bound'
        exact ⟨h', List.mem_append_right _ hm, he⟩

/-- A leaf of another forest is not met. -/
lemma filter_hits_eq_nil {f : Forest} {i : Nat} (hi : i ∉ f.leaves) (bound : Captures)
    (cs : List Char) : (f.hits bound cs).filter (·.1 == i) = [] := by
  refine List.filter_eq_nil_iff.2 fun h hh he => hi ?_
  have he : h.1 = i := by simpa using he
  exact he ▸ mem_leaves_of_mem_hits hh

lemma mem_leaves_of_mem_chains {f : Forest} {ss : List Segment} {i : Nat} {m : Method}
    (hc : (ss, i, m) ∈ f.chains) : i ∈ f.leaves := by
  rw [leaves_eq_map_chains]
  exact List.mem_map.2 ⟨_, hc, rfl⟩

/-- The hits of a leaf are the ways along its chain that take the path, in their order. -/
lemma filter_hits {f : Forest} (hf : f.leaves.Nodup) {ss : List Segment} {i : Nat} {m : Method}
    (hc : (ss, i, m) ∈ f.chains) (bound : Captures) (cs : List Char) :
    (f.hits bound cs).filter (·.1 == i) =
      ((waysAlong ss cs).filter (·.1.isEmpty)).map fun w => (i, m, bound.reverse ++ w.2) := by
  induction f generalizing ss bound cs with
  | empty => exact nomatch hc
  | leaf i' m' right ih =>
      rw [leaves, List.nodup_cons] at hf
      rw [hits, List.filter_append]
      rcases List.mem_cons.1 hc with he | hc
      · obtain ⟨rfl, rfl, rfl⟩ : ss = [] ∧ i = i' ∧ m = m' := by simpa using he
        rw [filter_hits_eq_nil hf.1, waysAlong]
        cases cs <;> simp
      · have hne : i' ≠ i := fun he => hf.1 (he ▸ mem_leaves_of_mem_chains hc)
        rw [ih hf.2 hc]
        split <;> simp [hne]
  | branch s below right ihb ihr =>
      rw [leaves, List.nodup_append] at hf
      rw [hits, List.filter_append]
      rw [chains, List.mem_append, List.mem_map] at hc
      rcases hc with ⟨⟨ss', e⟩, hc, he⟩ | hc
      · obtain ⟨rfl, rfl⟩ : s :: ss' = ss ∧ e = (i, m) := by simpa using he
        have hright : i ∉ right.leaves := fun hr =>
          hf.2.2 i (mem_leaves_of_mem_chains hc) i hr rfl
        rw [filter_hits_eq_nil hright, List.append_nil, List.filter_flatMap, waysAlong,
          List.filter_flatMap, List.map_flatMap]
        congr 1
        funext w
        rw [ihb hf.1 hc, List.filter_map, List.map_map]
        simp [Function.comp_def]
      · have hbelow : i ∉ below.leaves := fun hb =>
          hf.2.2 i hb i (mem_leaves_of_mem_chains hc) rfl
        have hnil : ((s.ways cs).flatMap fun w => below.hits (w.2.reverse ++ bound) w.1).filter
            (·.1 == i) = [] := by
          rw [List.filter_flatMap, List.flatMap_eq_nil_iff]
          exact fun w _ => filter_hits_eq_nil hbelow _ _
        rw [hnil, ihr hf.2.1 hc, List.nil_append]

/-- **The first hit of a leaf is the first way along its chain that takes the path.** -/
theorem find?_hits {f : Forest} (hf : f.leaves.Nodup) {ss : List Segment} {i : Nat} {m : Method}
    (hc : (ss, i, m) ∈ f.chains) (cs : List Char) :
    (f.hits [] cs).find? (·.1 == i) =
      ((waysAlong ss cs).find? (·.1.isEmpty)).map fun w => (i, m, w.2) := by
  rw [← List.head?_filter, filter_hits hf hc, List.head?_map, List.head?_filter]
  rfl

end Forest

end HttpRouting
