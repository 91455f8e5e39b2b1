/-
The arena of a forest is the forest.

* `Forest.subtrees`: the trees of all nodes, parents first;
* `Forest.ActionTree`, `Forest.actionTrees`: the trees of a row with what their nodes do;
* `Arena.IsNodeOf`, `Arena.exists_subtree`: the node at a place is made of the tree at this place;
* `Arena.perm_links`: every place is listed once, as a root or as a child;
* `Arena.readTree?`, `Arena.readTree?_layOut`: reading trees back from their roots;
* `Forest.leaves_infix`: the leaves of a subtree stand side by side;
* `Arena.represents_ofTable`: the arena of a table lists the nodes of its forest and links them as
  they are, and the first routes below them are right.

All is by induction on the row, where the places of the nodes count on from a given one.
-/
import HttpRouting.Proofs.Forest.Chains
import HttpRouting.Proofs.Forest.Layout
import HttpRouting.Proofs.Lists

namespace HttpRouting

/-! ### Trees of nodes -/

namespace Forest

/-- The trees of all nodes of a row, parents first and from left to right. -/
def subtrees : Forest → List Forest
  | empty => []
  | leaf index method right => leaf index method empty :: right.subtrees
  | branch s below right => branch s below empty :: (below.subtrees ++ right.subtrees)

/-- What the node at the first root of a row does. -/
def rootAction? : Forest → Option ArenaAction
  | empty => none
  | leaf index method _ => some (.leaf index method)
  | branch s _ _ => some (.ofSegment s)

/-- A tree whose nodes tell what they do. -/
inductive ActionTree where
  | node (action : ArenaAction) (below : List ActionTree)

/-- The trees of a row with what their nodes do. -/
def actionTrees : Forest → List ActionTree
  | empty => []
  | leaf index method right => .node (.leaf index method) [] :: right.actionTrees
  | branch s below right => .node (.ofSegment s) below.actionTrees :: right.actionTrees

lemma length_subtrees (f : Forest) : f.subtrees.length = f.size := by
  induction f with
  | empty => rfl
  | leaf _ _ right ih => rw [subtrees, List.length_cons, ih, size]
  | branch s below right ihb ihr =>
      rw [subtrees, List.length_cons, List.length_append, ihb, ihr, size]

/-- A node stands before the nodes of its tree. -/
lemma le_size_of_subtree {f tree : Forest} {k : Nat} (h : f.subtrees[k]? = some tree) :
    k + tree.size ≤ f.size := by
  induction f generalizing k with
  | empty => simp [subtrees] at h
  | leaf index method right ih =>
      cases k with
      | zero =>
          obtain rfl : leaf index method empty = tree := by simpa [subtrees] using h
          simp [size]
      | succ k =>
          have hright := ih (k := k) h
          rw [size]
          omega
  | branch s below right ihb ihr =>
      cases k with
      | zero =>
          obtain rfl : branch s below empty = tree := by simpa [subtrees] using h
          simp [size]
      | succ k =>
          rw [subtrees, List.getElem?_cons_succ, List.getElem?_append, length_subtrees] at h
          split at h
          · have hbelow := ihb h
            rw [size]
            omega
          · have hright := ihr h
            rw [size]
            omega

/-! ### Leaves of trees -/

/-- **The leaves of a subtree stand side by side** among those of the row. -/
theorem leaves_infix {f tree : Forest} (h : tree ∈ f.subtrees) : tree.leaves <:+: f.leaves := by
  induction f with
  | empty => exact nomatch h
  | leaf index method right ih =>
      rcases List.mem_cons.1 h with rfl | h
      · exact ⟨[], right.leaves, rfl⟩
      · exact (ih h).trans (List.suffix_cons index right.leaves).isInfix
  | branch s below right ihb ihr =>
      rcases List.mem_cons.1 h with rfl | h
      · exact ⟨[], right.leaves, by simp [leaves]⟩
      · rcases List.mem_append.1 h with h | h
        · exact (ihb h).trans (List.prefix_append _ _).isInfix
        · exact (ihr h).trans (List.suffix_append _ _).isInfix

/-- Every subtree has a leaf if there are leaves below every branch. -/
lemma IsFull.leaves_ne_nil {f tree : Forest} (hf : f.IsFull) (h : tree ∈ f.subtrees) :
    tree.leaves ≠ [] := by
  induction f with
  | empty => exact nomatch h
  | leaf index method right ih =>
      rcases List.mem_cons.1 h with rfl | h
      · simp [leaves]
      · exact ih hf h
  | branch s below right ihb ihr =>
      obtain ⟨hne, hbelow, hright⟩ := hf
      rcases List.mem_cons.1 h with rfl | h
      · rw [leaves, leaves, List.append_nil, leaves_eq_map_chains]
        exact mt List.map_eq_nil_iff.1 hne
      · rcases List.mem_append.1 h with h | h
        · exact ihb hbelow h
        · exact ihr hright h

/-- The routes below a node of a table follow each other. -/
lemma leaves_eq_range' {α : Type} {t : RouteTable α} {tree : Forest}
    (h : tree ∈ (ofTable t).subtrees) :
    ∃ first count, 0 < count ∧ first + count ≤ t.size ∧
      tree.leaves = List.range' first count := by
  have hinfix := leaves_infix h
  rw [leaves_ofTable, List.infix_iff_getElem?, List.length_range] at hinfix
  obtain ⟨first, hle, hat⟩ := hinfix
  refine ⟨first, tree.leaves.length, ?_, by omega, ?_⟩
  · exact List.length_pos_iff.2 ((isFull_ofTable t).leaves_ne_nil h)
  · refine List.ext_getElem (by simp) fun i hi _ => ?_
    have hi := hat i hi
    rw [List.getElem?_range (by omega)] at hi
    rw [← Option.some.inj hi, List.getElem_range']
    omega

end Forest

namespace Arena

/-! ### Nodes of trees -/

/-- A node at a place is made of a tree. -/
inductive IsNodeOf (id : Nat) : ArenaNode → Forest → Prop where
  | leaf {index : Nat} {method : Method} :
    IsNodeOf id ⟨.leaf index method, [], some index⟩ (.leaf index method .empty)
  | branch {s : Segment} {below : Forest} :
    IsNodeOf id ⟨.ofSegment s, (layOut (id + 1) below).2, below.minLeaf?⟩ (.branch s below .empty)

section IsNodeOf

variable {id : Nat} {node : ArenaNode} {tree : Forest}

lemma IsNodeOf.rootAction? (h : IsNodeOf id node tree) : tree.rootAction? = some node.action := by
  cases h <;> rfl

lemma IsNodeOf.first (h : IsNodeOf id node tree) : node.first = tree.minLeaf? := by
  cases h with
  | leaf => rfl
  | branch => simp [Forest.minLeaf?, Forest.leaves]

/-- The children stand behind the node, and inside its tree. -/
lemma IsNodeOf.children (h : IsNodeOf id node tree) {child : Nat} (hc : child ∈ node.children) :
    id < child ∧ child < id + tree.size := by
  cases h with
  | leaf => exact nomatch hc
  | branch =>
      have hroots := mem_roots_layOut hc
      simp only [Forest.size]
      omega

end IsNodeOf

/-- **The node at a place is made of the tree at this place.** -/
theorem exists_subtree {f : Forest} {start k : Nat} {node : ArenaNode}
    (h : (layOut start f).1[k]? = some node) :
    ∃ tree, f.subtrees[k]? = some tree ∧ IsNodeOf (start + k) node tree := by
  induction f generalizing start k with
  | empty => simp [layOut] at h
  | leaf index method right ih =>
      cases k with
      | zero =>
          obtain rfl := Option.some.inj h
          exact ⟨_, rfl, .leaf⟩
      | succ k =>
          obtain ⟨tree, htree, hnode⟩ := @ih (start + 1) k h
          exact ⟨tree, htree, by rwa [show start + (k + 1) = start + 1 + k by omega]⟩
  | branch s below right ihb ihr =>
      cases k with
      | zero =>
          obtain rfl := Option.some.inj h
          exact ⟨_, rfl, .branch⟩
      | succ k =>
          rw [layOut, List.getElem?_cons_succ, List.getElem?_append, length_layOut] at h
          rw [Forest.subtrees, List.getElem?_cons_succ, List.getElem?_append,
            Forest.length_subtrees]
          split at h
          · next hlt =>
              obtain ⟨tree, htree, hnode⟩ := ihb h
              rw [if_pos hlt]
              exact ⟨tree, htree, by rwa [show start + (k + 1) = start + 1 + k by omega]⟩
          · next hge =>
              obtain ⟨tree, htree, hnode⟩ := ihr h
              rw [if_neg hge]
              refine ⟨tree, htree, ?_⟩
              rwa [show start + (k + 1) = start + 1 + below.size + (k - below.size) by omega]

/-- What the nodes do, place by place. -/
lemma map_action_layOut (start : Nat) (f : Forest) :
    (layOut start f).1.map (some ·.action) = f.subtrees.map Forest.rootAction? := by
  refine List.ext_getElem? fun k => ?_
  rw [List.getElem?_map, List.getElem?_map]
  cases h : (layOut start f).1[k]? with
  | none =>
      rw [List.getElem?_eq_none_iff, length_layOut, ← Forest.length_subtrees,
        ← List.getElem?_eq_none_iff] at h
      rw [h]
      rfl
  | some node =>
      obtain ⟨tree, htree, hnode⟩ := exists_subtree h
      rw [htree, Option.map_some, Option.map_some, hnode.rootAction?]

/-! ### Links -/

/-- **Every place is listed once**, as a root or as a child of a node. -/
theorem perm_links (start : Nat) (f : Forest) :
    ((layOut start f).2 ++ (layOut start f).1.flatMap (·.children)).Perm
      (List.range' start f.size) := by
  induction f generalizing start with
  | empty => exact .nil
  | leaf index method right ih =>
      rw [Forest.size, List.range'_succ]
      exact (ih (start + 1)).cons start
  | branch s below right ihb ihr =>
      have hboth := (ihb (start + 1)).append (ihr (start + 1 + below.size))
      rw [List.range'_append_1] at hboth
      rw [roots_branch, nodes_branch, List.flatMap_cons, List.flatMap_append, Forest.size,
        List.range'_succ, List.cons_append]
      refine .cons start (.trans ?_ hboth)
      -- the roots to the right are listed before the children below
      rw [← List.append_assoc (layOut (start + 1) below).2]
      exact List.perm_append_comm_assoc _ _ _

/-- A node is the parent of another one. -/
def HasChild (a : Arena) (parent child : Nat) : Prop :=
  ∃ node, a.nodes[parent]? = some node ∧ child ∈ node.children

/-! ### Reading back -/

/-- Reads the tree at a place back. Children that do not stand behind their parent are refused. -/
def readTree? (a : Arena) (id : Nat) : Option Forest.ActionTree :=
  match a.nodes[id]? with
  | none => none
  | some node =>
    (node.children.mapM fun child =>
      if _h : id < child ∧ child < a.nodes.size then readTree? a child else none).map
        (.node node.action)
termination_by a.nodes.size - id

/-- **Reading back from the roots of a row** gives its trees. -/
theorem readTree?_layOut {a : Arena} {f : Forest} {start : Nat} (h : a.Holds start f) :
    (layOut start f).2.mapM a.readTree? = some f.actionTrees := by
  induction f generalizing start with
  | empty => rfl
  | leaf index method right ih =>
      obtain ⟨hnode, hright⟩ := h.leaf
      have hread : a.readTree? start = some (.node (.leaf index method) []) := by
        rw [readTree?, hnode]
        rfl
      rw [layOut, List.mapM_cons, hread, ih hright]
      rfl
  | branch s below right ihb ihr =>
      obtain ⟨hnode, hbelow, hright⟩ := h.branch
      have hread : a.readTree? start = some (.node (.ofSegment s) below.actionTrees) := by
        rw [readTree?, hnode]
        dsimp only
        rw [mapM_congr (g := a.readTree?), ihb hbelow, Option.map_some]
        intro child hchild
        have hplace := mem_roots_layOut hchild
        exact dif_pos ⟨by omega, hbelow.lt_size hplace.1 hplace.2⟩
      rw [roots_branch, List.mapM_cons, hread, ihr hright]
      rfl

/-! ### The arena of a table -/

section OfForest

variable {f : Forest} {id parent parent' : Nat}

lemma toList_nodes_ofForest (f : Forest) : (ofForest f).nodes.toList = (layOut 0 f).1 := rfl

lemma getElem?_nodes_ofForest (f : Forest) (id : Nat) :
    (ofForest f).nodes[id]? = (layOut 0 f).1[id]? := by
  rw [← Array.getElem?_toList, toList_nodes_ofForest]

/-- The places of the arena of a forest, each listed once. -/
lemma perm_links_ofForest (f : Forest) :
    ((ofForest f).roots ++ (ofForest f).nodes.toList.flatMap (·.children)).Perm
      (List.range (ofForest f).size) := by
  rw [size_ofForest, List.range_eq_range']
  exact perm_links 0 f

lemma nodup_links_ofForest (f : Forest) :
    ((ofForest f).roots ++ (ofForest f).nodes.toList.flatMap (·.children)).Nodup :=
  (perm_links_ofForest f).nodup_iff.2 List.nodup_range

lemma exists_hasChild_iff :
    (∃ parent, (ofForest f).HasChild parent id) ↔
      id ∈ (ofForest f).nodes.toList.flatMap (·.children) := by
  rw [List.mem_flatMap]
  constructor
  · rintro ⟨parent, node, hnode, hid⟩
    rw [← Array.getElem?_toList] at hnode
    exact ⟨node, List.mem_of_getElem? hnode, hid⟩
  · rintro ⟨node, hmem, hid⟩
    obtain ⟨parent, hnode⟩ := List.getElem?_of_mem hmem
    rw [Array.getElem?_toList] at hnode
    exact ⟨parent, node, hnode, hid⟩

/-- No node has two parents. -/
lemma HasChild.unique (h : (ofForest f).HasChild parent id)
    (h' : (ofForest f).HasChild parent' id) : parent = parent' := by
  obtain ⟨node, hnode, hid⟩ := h
  obtain ⟨node', hnode', hid'⟩ := h'
  rw [← Array.getElem?_toList] at hnode hnode'
  exact eq_of_mem_flatMap (List.nodup_append.1 (nodup_links_ofForest f)).2.1 hnode hnode' hid hid'

/-- A root has no parent. -/
lemma not_hasChild_of_mem_roots (h : id ∈ (ofForest f).roots) :
    ¬ (ofForest f).HasChild parent id := fun hparent =>
  (List.nodup_append.1 (nodup_links_ofForest f)).2.2 id h id
    (exists_hasChild_iff.1 ⟨parent, hparent⟩) rfl

/-- A place is a root, or it has a parent. -/
lemma exists_hasChild (h : id < (ofForest f).size) (hroot : id ∉ (ofForest f).roots) :
    ∃ parent, (ofForest f).HasChild parent id := by
  have hlisted := (perm_links_ofForest f).mem_iff.2 (List.mem_range.2 h)
  rw [List.mem_append] at hlisted
  exact exists_hasChild_iff.2 (hlisted.resolve_left hroot)

/-- Children stand behind their parents. -/
lemma HasChild.lt (h : (ofForest f).HasChild parent id) : parent < id ∧ id < (ofForest f).size := by
  obtain ⟨node, hnode, hid⟩ := h
  rw [getElem?_nodes_ofForest] at hnode
  obtain ⟨tree, htree, hmade⟩ := exists_subtree hnode
  have hplace := hmade.children hid
  have hsize := Forest.le_size_of_subtree htree
  rw [size_ofForest]
  omega

end OfForest

/-- **The arena of a table is its forest.** The nodes stand in it parents first, as many as the
forest has. Children stand behind their parents, no node is listed twice, and each is either a root
or the child of exactly one node. Reading back from the roots gives the trees of the forest, and the
first route of each node is the first of the routes below it, which follow each other. -/
theorem represents_ofTable {α : Type} (t : RouteTable α) :
    let f := Forest.ofTable t
    let a := ofForest f
    a.nodes.toList.map (some ·.action) = f.subtrees.map Forest.rootAction? ∧
      a.size = f.size ∧
      (∀ parent child, a.HasChild parent child → parent < child ∧ child < a.size) ∧
      (a.roots ++ a.nodes.toList.flatMap (·.children)).Nodup ∧
      (∀ id ∈ a.roots, id < a.size ∧ ∀ parent, ¬ a.HasChild parent id) ∧
      (∀ id < a.size, id ∉ a.roots → ∃! parent, a.HasChild parent id) ∧
      a.roots.mapM a.readTree? = some f.actionTrees ∧
      ∀ (id : Nat) (node : ArenaNode), a.nodes[id]? = some node →
        ∃ (tree : Forest) (first count : Nat), f.subtrees[id]? = some tree ∧
          node.first = some first ∧ 0 < count ∧ first + count ≤ t.size ∧
          tree.leaves = List.range' first count := by
  intro f a
  refine ⟨map_action_layOut 0 f, size_ofForest f, fun _ _ h => h.lt, nodup_links_ofForest f,
    fun id hid => ⟨?_, fun _ => not_hasChild_of_mem_roots hid⟩, fun id hid hroot => ?_,
    readTree?_layOut (holds_ofForest f), fun id node hnode => ?_⟩
  · have hplace : 0 ≤ id ∧ id < 0 + f.size := mem_roots_layOut hid
    rw [size_ofForest]
    omega
  · obtain ⟨parent, hparent⟩ := exists_hasChild hid hroot
    exact ⟨parent, hparent, fun _ h => h.unique hparent⟩
  · obtain ⟨tree, htree, hmade⟩ :=
      exists_subtree ((getElem?_nodes_ofForest f id).symm.trans hnode)
    obtain ⟨first, count, hpos, hle, hleaves⟩ :=
      Forest.leaves_eq_range' (List.mem_of_getElem? htree)
    refine ⟨tree, first, count, htree, ?_, hpos, hle, hleaves⟩
    -- the first number of a range is the least one
    rw [hmade.first, Forest.minLeaf?, hleaves, List.min?_eq_some_iff]
    simp only [List.mem_range'_1]
    exact ⟨by omega, fun _ h => h.1⟩

end Arena

end HttpRouting
