/-
The places of the nodes of a forest in its arena.

* `Forest.treeAt`: the tree of the node at a place;
* `Forest.StandsAt`: a row is the part of a forest from a place on;
* `Arena.Holds`: an arena has the nodes of a row from a place on;
* `Arena.roots_branch`, `Arena.nodes_branch`: how a tree and the row to its right are laid out;
* `Arena.mem_roots_layOut`, `Arena.Holds.lt_size`: the roots of a row stand at places of the row,
  and these are places of the arena.

Parents stand before their children, and a row stands before what is to its right.
-/
import HttpRouting.Forest.Arena
import Mathlib.Tactic.Lemma

namespace HttpRouting

/-! ### Trees and places -/

namespace Forest

/-- The tree of the node at a place, where the nodes of a row are laid out parents first. -/
def treeAt : Forest → Nat → Forest
  | empty, _ => empty
  | leaf index method _, 0 => leaf index method empty
  | leaf _ _ right, n + 1 => right.treeAt n
  | branch s below _, 0 => branch s below empty
  | branch _ below right, n + 1 =>
    if n < below.size then below.treeAt n else right.treeAt (n - below.size)

/-- A row `f` is the part of the row `whole` from the place `start` on. -/
def StandsAt (whole : Forest) (start : Nat) (f : Forest) : Prop :=
  ∀ k < f.size, whole.treeAt (start + k) = f.treeAt k

variable {whole : Forest} {start : Nat}

lemma StandsAt.right_of_leaf {i : Nat} {m : Method} {right : Forest}
    (h : StandsAt whole start (leaf i m right)) : StandsAt whole (start + 1) right :=
  fun k hk => by
    have hk' := h (k + 1) (by simpa [size] using hk)
    rwa [treeAt, show start + (k + 1) = start + 1 + k by omega] at hk'

lemma StandsAt.below {s : Segment} {below right : Forest}
    (h : StandsAt whole start (branch s below right)) : StandsAt whole (start + 1) below :=
  fun k hk => by
    have hk' := h (k + 1) (by rw [size]; omega)
    rwa [treeAt, if_pos hk, show start + (k + 1) = start + 1 + k by omega] at hk'

lemma StandsAt.right {s : Segment} {below right : Forest}
    (h : StandsAt whole start (branch s below right)) :
    StandsAt whole (start + 1 + below.size) right :=
  fun k hk => by
    have hk' := h (below.size + k + 1) (by rw [size]; omega)
    rwa [treeAt, if_neg (by omega), Nat.add_sub_cancel_left,
      show start + (below.size + k + 1) = start + 1 + below.size + k by omega] at hk'

end Forest

namespace Arena

/-- The nodes of a row stand in an arena from the place `start` on. -/
def Holds (a : Arena) (start : Nat) (f : Forest) : Prop :=
  ∀ k node, (layOut start f).1[k]? = some node → a.nodes[start + k]? = some node

variable {a : Arena} {start : Nat}

lemma Holds.leaf {i : Nat} {m : Method} {right : Forest} (h : a.Holds start (.leaf i m right)) :
    a.nodes[start]? = some ⟨.leaf i m, [], some i⟩ ∧ a.Holds (start + 1) right := by
  refine ⟨h 0 _ rfl, fun k node hk => ?_⟩
  rw [show start + 1 + k = start + (k + 1) by omega]
  exact h (k + 1) node hk

lemma Holds.branch {s : Segment} {below right : Forest} (h : a.Holds start (.branch s below right)) :
    a.nodes[start]? =
        some ⟨.ofSegment s, (layOut (start + 1) below).2, below.minLeaf?⟩ ∧
      a.Holds (start + 1) below ∧ a.Holds (start + 1 + below.size) right := by
  refine ⟨h 0 _ rfl, fun k node hk => ?_, fun k node hk => ?_⟩
  · rw [show start + 1 + k = start + (k + 1) by omega]
    refine h (k + 1) node ?_
    have hlt := (List.getElem?_eq_some_iff.1 hk).1
    rw [layOut, List.getElem?_cons_succ, List.getElem?_append_left hlt]
    exact hk
  · rw [show start + 1 + below.size + k = start + (below.size + k + 1) by omega]
    refine h (below.size + k + 1) node ?_
    rw [layOut, List.getElem?_cons_succ,
      List.getElem?_append_right (by rw [length_layOut]; omega), length_layOut,
      Nat.add_sub_cancel_left]
    exact hk

lemma roots_branch (start : Nat) (s : Segment) (below right : Forest) :
    (layOut start (.branch s below right)).2 =
      start :: (layOut (start + 1 + below.size) right).2 := by
  rw [← length_layOut (start + 1) below]
  rfl

lemma nodes_branch (start : Nat) (s : Segment) (below right : Forest) :
    (layOut start (.branch s below right)).1 =
      ⟨.ofSegment s, (layOut (start + 1) below).2, below.minLeaf?⟩ ::
        ((layOut (start + 1) below).1 ++ (layOut (start + 1 + below.size) right).1) := by
  rw [← length_layOut (start + 1) below]
  rfl

/-- The roots of a row stand at places of the row. -/
lemma mem_roots_layOut {f : Forest} {id : Nat} (h : id ∈ (layOut start f).2) :
    start ≤ id ∧ id < start + f.size := by
  induction f generalizing start with
  | empty => exact nomatch h
  | leaf i m right ih =>
      rcases List.mem_cons.1 h with rfl | h
      · exact ⟨Nat.le_refl _, by rw [Forest.size]; omega⟩
      · have hr := ih h
        rw [Forest.size]
        omega
  | branch s below right ihb ihr =>
      rcases List.mem_cons.1 h with rfl | h
      · exact ⟨Nat.le_refl _, by rw [Forest.size]; omega⟩
      · have hr := ihr h
        rw [length_layOut] at hr
        rw [Forest.size]
        omega

/-- The places of a row are places of the arena. -/
lemma Holds.lt_size {f : Forest} (h : a.Holds start f) {id : Nat} (hs : start ≤ id)
    (hid : id < start + f.size) : id < a.nodes.size := by
  have hlt : id - start < (layOut start f).1.length := by
    rw [length_layOut]
    omega
  have hnode := h (id - start) _ (List.getElem?_eq_getElem hlt)
  rw [show start + (id - start) = id by omega] at hnode
  exact (Array.getElem?_eq_some_iff.1 hnode).1

lemma holds_ofForest (f : Forest) : (ofForest f).Holds 0 f := by
  intro k node hk
  rw [Nat.zero_add, ofForest]
  simpa using hk

end Arena

end HttpRouting
