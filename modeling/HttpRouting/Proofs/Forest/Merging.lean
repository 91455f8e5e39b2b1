/-
The forest of a table is merged as far as the order of the routes allows.

* `Segment.IsOptional`: the segment of an optional rest, which ends a path;
* `Forest.roots`, `Forest.innerNodes`: the roots of a row, and the inner nodes with the rows below
  them;
* `Forest.roots_insert`: a row takes a route into its last tree or gets one more tree;
* `Forest.forall_innerNodes_insert`: the inner nodes after a route is added;
* `Forest.IsMerged`: what holds of the row below an inner node;
* `Forest.ofTable_isMerged`: the forest of a table lists its routes, and its rows are merged.

A route is compared with the last tree of a row only. Equal segments that are not side by side stay
apart, as the leaves between them belong to earlier routes.
-/
import HttpRouting.Proofs.Forest.Chains
import Mathlib.Data.List.Chain

namespace HttpRouting

/-! ### Segments of a path -/

/-- The segment of an optional rest. -/
def Segment.IsOptional (s : Segment) : Prop :=
  ∃ inner registry, s = optional inner registry

/-- Nothing follows an optional rest. -/
lemma Segment.eq_nil_of_isOptional {registry : TypeRegistry} {p : Path} {s : Segment}
    {ss : List Segment} (h : s :: ss <:+ ofPath registry p) (hs : s.IsOptional) : ss = [] := by
  induction p with
  | empty => exact absurd (List.suffix_nil.1 h) (List.cons_ne_nil s ss)
  | literal text next ih =>
      rcases List.suffix_cons_iff.1 h with he | h
      · obtain ⟨inner, registry', rfl⟩ := hs
        exact nomatch (List.cons.inj he).1
      · exact ih h
  | attr name typeName next ih =>
      rcases List.suffix_cons_iff.1 h with he | h
      · obtain ⟨inner, registry', rfl⟩ := hs
        exact nomatch (List.cons.inj he).1
      · exact ih h
  | optional inner ih =>
      rcases List.suffix_cons_iff.1 h with he | h
      · exact (List.cons.inj he).2
      · exact absurd (List.suffix_nil.1 h) (List.cons_ne_nil s ss)

namespace Forest

/-! ### Rows -/

/-- The segments at the roots of a row, from left to right. A leaf has none. -/
def roots : Forest → List (Option Segment)
  | empty => []
  | leaf _ _ right => none :: right.roots
  | branch s _ right => some s :: right.roots

/-- The inner nodes, each with the row of its children. -/
def innerNodes : Forest → List (Segment × Forest)
  | empty => []
  | leaf _ _ right => right.innerNodes
  | branch s below right => (s, below) :: (below.innerNodes ++ right.innerNodes)

variable {index : Nat} {method : Method}

lemma roots_chain (ss : List Segment) : (chain index method ss).roots = [ss.head?] := by
  cases ss <;> rfl

lemma roots_ne_nil {f : Forest} (h : f ≠ empty) : f.roots ≠ [] := by
  cases f with
  | empty => exact absurd rfl h
  | leaf _ _ _ | branch _ _ _ => exact List.cons_ne_nil _ _

/-- **A route is taken in by the last tree of a row**, if the segments agree. Else it becomes one
more tree of the row. -/
theorem roots_insert (ss : List Segment) (f : Forest) :
    (f.insert index method ss).roots =
      if ss.head?.isSome ∧ f.roots.getLast? = some ss.head? then f.roots
      else f.roots ++ [ss.head?] := by
  fun_induction insert index method ss f with
  | case1 ss => simp [roots, roots_chain]
  | case2 ss i m right ih =>
      -- a leaf in front does not make the last tree agree with a segment
      have hlast : (ss.head?.isSome ∧ (none :: right.roots).getLast? = some ss.head?) ↔
          ss.head?.isSome ∧ right.roots.getLast? = some ss.head? := by
        rw [List.getLast?_cons]
        cases right.roots.getLast? <;> cases ss.head? <;> simp
      simp only [roots, ih, hlast]
      split <;> rfl
  | case3 s below right ih => simpa [roots] using ih
  | case4 ts t below ih => simp [roots]
  | case5 t ts s below hne => simp [roots, roots_chain, hne]
  | case6 t ts s below right hright ih =>
      have hlast : (some s :: right.roots).getLast? = right.roots.getLast? := by
        rw [List.getLast?_cons, List.getLast?_eq_some_getLast (roots_ne_nil hright)]
        rfl
      simp only [roots, ih, hlast]
      split <;> rfl

/-! ### Inner nodes -/

variable {P : Segment → Forest → Prop}

/-- The inner nodes of a tree without forks. -/
lemma forall_innerNodes_chain {ss : List Segment}
    (h : ∀ s ts, s :: ts <:+ ss → P s (chain index method ts)) :
    ∀ n ∈ (chain index method ss).innerNodes, P n.1 n.2 := by
  induction ss with
  | nil => exact fun n hn => nomatch hn
  | cons s ss ih =>
      intro n hn
      rw [chain, innerNodes, innerNodes, List.append_nil] at hn
      rcases List.mem_cons.1 hn with rfl | hn
      · exact h s ss List.suffix_rfl
      · exact ih (fun s' ts hts => h s' ts (hts.trans (List.suffix_cons s ss))) n hn

/-- **The inner nodes after a route is added**: those there were, where the rows on the way of the
route take in what is left of it, and those of the tree that is new. -/
theorem forall_innerNodes_insert {ss : List Segment} {f : Forest}
    (hf : ∀ n ∈ f.innerNodes, P n.1 n.2)
    (hnew : ∀ s ts, s :: ts <:+ ss → P s (chain index method ts))
    (hstep : ∀ s ts below, s :: ts <:+ ss → P s below → P s (below.insert index method ts)) :
    ∀ n ∈ (f.insert index method ss).innerNodes, P n.1 n.2 := by
  fun_induction insert index method ss f with
  | case1 ss => exact forall_innerNodes_chain hnew
  | case2 ss i m right ih => exact ih hf hnew hstep
  | case3 s below right ih =>
      simp only [innerNodes, List.forall_mem_cons, List.forall_mem_append] at hf ⊢
      exact ⟨hf.1, hf.2.1, ih hf.2.2 hnew hstep⟩
  | case4 ts t below ih =>
      simp only [innerNodes, List.forall_mem_cons, List.append_nil] at hf ⊢
      have hsuffix : ts <:+ t :: ts := List.suffix_cons t ts
      exact ⟨hstep t ts below List.suffix_rfl hf.1, ih hf.2
        (fun s' ts' h => hnew s' ts' (h.trans hsuffix))
        fun s' ts' b h => hstep s' ts' b (h.trans hsuffix)⟩
  | case5 t ts s below hne =>
      simp only [innerNodes, List.forall_mem_cons, List.forall_mem_append] at hf ⊢
      exact ⟨hf.1, hf.2.1, forall_innerNodes_chain hnew⟩
  | case6 t ts s below right hright ih =>
      simp only [innerNodes, List.forall_mem_cons, List.forall_mem_append] at hf ⊢
      exact ⟨hf.1, hf.2.1, ih hf.2.2 hnew hstep⟩

/-! ### Merged rows -/

/-- No two trees of a row that are side by side have the same segment. -/
def IsSeparated (row : Forest) : Prop :=
  row.roots.IsChain fun a b => a.isSome → a ≠ b

/-- A row stays separated: a tree is added only where the last one differs. -/
lemma IsSeparated.insert {f : Forest} (h : f.IsSeparated) (ss : List Segment) :
    (f.insert index method ss).IsSeparated := by
  rw [IsSeparated, roots_insert]
  split
  · exact h
  · next hlast =>
      refine h.append (.singleton _) fun a ha b hb hsome he => hlast ?_
      obtain rfl := Option.some.inj hb
      exact ⟨he ▸ hsome, he ▸ ha⟩

/-- The row below an inner node: it has a leaf, it has nothing else if the node is an optional rest,
and it is separated. -/
structure IsMerged (s : Segment) (below : Forest) : Prop where
  leaves : below.leaves ≠ []
  onlyLeaves : s.IsOptional → ∀ root ∈ below.roots, root = none
  separated : below.IsSeparated

variable {registry : TypeRegistry} {p : Path} {s : Segment} {ts : List Segment} {below : Forest}

lemma leaves_insert_ne_nil (f : Forest) (ss : List Segment) :
    (f.insert index method ss).leaves ≠ [] := by
  simp [leaves_eq_map_chains, chains_insert]

/-- The row below a node of a new tree is merged. -/
lemma isMerged_chain (h : s :: ts <:+ Segment.ofPath registry p) :
    IsMerged s (chain index method ts) where
  leaves := by simp [leaves_eq_map_chains]
  onlyLeaves := fun hs => by
    simp [Segment.eq_nil_of_isOptional h hs, chain, roots]
  separated := by simp [IsSeparated, roots_chain]

/-- The row below a node stays merged when it takes in the rest of a path. -/
lemma IsMerged.insert (hb : IsMerged s below) (h : s :: ts <:+ Segment.ofPath registry p) :
    IsMerged s (below.insert index method ts) where
  leaves := leaves_insert_ne_nil below ts
  onlyLeaves := fun hs root hroot => by
    obtain rfl := Segment.eq_nil_of_isOptional h hs
    rw [roots_insert, if_neg (by simp)] at hroot
    rcases List.mem_append.1 hroot with hroot | hroot
    · exact hb.onlyLeaves hs root hroot
    · exact List.mem_singleton.1 hroot
  separated := hb.separated.insert ts

/-- Adding routes keeps the rows separated and those below inner nodes merged. -/
lemma isMerged_insertAll {α : Type} {f : Forest} (hf : f.IsSeparated)
    (hinner : ∀ n ∈ f.innerNodes, IsMerged n.1 n.2) (index : Nat) (rs : List (Route α)) :
    (f.insertAll index rs).IsSeparated ∧
      ∀ n ∈ (f.insertAll index rs).innerNodes, IsMerged n.1 n.2 := by
  induction rs generalizing f index with
  | nil => exact ⟨hf, hinner⟩
  | cons r rs ih =>
      refine ih (hf.insert _) (forall_innerNodes_insert hinner (fun s ts h => isMerged_chain h)
        fun s ts below h hb => hb.insert h) (index + 1)

/-- **The forest of a table is a merged trie of its routes.** From left to right its chains are the
routes with their indices and methods, in their order. Below every inner node there is a leaf, below
an optional rest there are only leaves, and no two inner nodes side by side have the same
segment. -/
theorem ofTable_isMerged {α : Type} (t : RouteTable α) :
    (ofTable t).chains =
        t.routes.zipIdx.map (fun (r, i) => (Segment.ofPath r.registry r.path, i, r.method)) ∧
      (∀ n ∈ (ofTable t).innerNodes, n.2.leaves ≠ []) ∧
      (∀ n ∈ (ofTable t).innerNodes, n.1.IsOptional → ∀ root ∈ n.2.roots, root = none) ∧
      (ofTable t).IsSeparated ∧ ∀ n ∈ (ofTable t).innerNodes, n.2.IsSeparated := by
  have hempty : IsSeparated empty := .nil
  obtain ⟨hseparated, hinner⟩ :=
    isMerged_insertAll hempty (fun n hn => nomatch hn) 0 t.routes
  exact ⟨chains_ofTable t, fun n hn => (hinner n hn).leaves, fun n hn => (hinner n hn).onlyLeaves,
    hseparated, fun n hn => (hinner n hn).separated⟩

end Forest

end HttpRouting
