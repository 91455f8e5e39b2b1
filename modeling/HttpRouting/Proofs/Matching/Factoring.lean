/-
The trees side by side are the routes side by side, with common literals written once.

* `MarkedChain.pieces`, `MarkedChain.text`: the texts of the parts of a way to a leaf, and the whole;
* `WrittenForest`: a forest with the texts that are written for it, piece by piece;
* `WrittenForest.texts`: the texts of the trees, where what is shared stands once;
* `WrittenForest.ways`: the pieces from a root to each leaf;
* `Forest.written`, `Forest.texts_written`: a forest as it is written, which gives its texts;
* `Forest.ways_written`: the pieces of each leaf are those of the parts on the way to it;
* `Forest.factors_ofTable`: put together, they are the texts of the routes side by side.
-/
import HttpRouting.Proofs.Matching.Captures

namespace HttpRouting

/-! ### Pieces of ways -/

/-- The texts of the parts of a way to a leaf, with the end of its route. The attributes take the
numbers from `n` on. -/
def chainPieces (index : Nat) (method : Method) : Nat → List Segment → List (List Char)
  | _, [] => [leafNotation method index]
  | n, s :: ss => segmentNotation n s :: chainPieces index method (n + s.groupCount) ss

/-- Put together, they are the text of the way. -/
lemma flatten_chainPieces (index : Nat) (method : Method) (n : Nat) (ss : List Segment) :
    (chainPieces index method n ss).flatten = chainNotation index method n ss := by
  induction ss generalizing n with
  | nil => exact List.append_nil _
  | cons s ss ih => rw [chainPieces, List.flatten_cons, ih, chainNotation]

namespace MarkedChain

/-- The texts of the parts of a way to a leaf. -/
def pieces (c : MarkedChain) : List (List Char) :=
  chainPieces c.index c.method c.number c.segments

/-- The text of a way to a leaf. -/
def text (c : MarkedChain) : List Char :=
  chainNotation c.index c.method c.number c.segments

lemma flatten_pieces (c : MarkedChain) : c.pieces.flatten = c.text :=
  flatten_chainPieces c.index c.method c.number c.segments

end MarkedChain

/-- The text of the way to the leaf of a path is that of the path and of the end of its route. -/
lemma chainNotation_ofPath (registry : TypeRegistry) (p : Path) (n index : Nat) (method : Method) :
    chainNotation index method n (Segment.ofPath registry p) =
      pathNotation registry p n ++ leafNotation method index := by
  induction p generalizing n with
  | empty => rfl
  | literal text next ih =>
      rw [Segment.ofPath, chainNotation, pathNotation, List.append_assoc]
      exact congrArg (_ ++ ·) (ih n)
  | attr name typeName next ih =>
      rw [Segment.ofPath, chainNotation, pathNotation, List.append_assoc]
      exact congrArg (_ ++ ·) (ih (n + 1))
  | optional inner ih => rfl

lemma MarkedRoute.text_chain {α : Type} (x : MarkedRoute α) : x.chain.text = x.text :=
  chainNotation_ofPath x.route.registry x.route.path x.number x.index x.route.method

/-- The texts of several ways, put together from their pieces. -/
lemma map_flatten_chainsFrom (n : Nat) (cs : List (List Segment × Nat × Method)) :
    ((chainsFrom n cs).map (·.pieces)).map List.flatten = (chainAlternatives n cs).1 := by
  induction cs generalizing n with
  | nil => rfl
  | cons c cs ih =>
      rw [chainsFrom, List.map_cons, List.map_cons, MarkedChain.flatten_pieces, ih]
      rfl

/-! ### Written forests -/

/-- A row of trees as it is written: the end of a route, a text that is shared by the trees below
it, or some ways to leaves that are written each on its own, in pieces. -/
inductive WrittenForest where
  | empty
  | leaf (mark : List Char) (right : WrittenForest)
  | shared (text : List Char) (below right : WrittenForest)
  | spread (ways : List (List (List Char))) (right : WrittenForest)

namespace WrittenForest

/-- The texts of the trees of a row. -/
def texts : WrittenForest → List (List Char)
  | empty => []
  | leaf mark right => mark :: right.texts
  | shared text below right => (text ++ alternation below.texts) :: right.texts
  | spread ways right => alternation (ways.map List.flatten) :: right.texts

/-- The pieces that are written from a root to each leaf, from left to right. -/
def ways : WrittenForest → List (List (List Char))
  | empty => []
  | leaf mark right => [mark] :: right.ways
  | shared text below right => below.ways.map (text :: ·) ++ right.ways
  | spread ways right => ways ++ right.ways

end WrittenForest

namespace Forest

/-- A row as it is written. A literal is shared by what is below it. From the first attribute or
optional rest on, every way to a leaf is written on its own. The attributes take the numbers from
`n` on. -/
def written (n : Nat) : Forest → WrittenForest
  | empty => .empty
  | leaf index method right => .leaf (leafNotation method index) (right.written n)
  | branch s below right =>
    let chains := below.chains.map fun (ss, e) => (s :: ss, e)
    match s with
    | .literal text =>
      .shared (escapeLiteral text.toList) (below.written n) (right.written (n + groupsAlong chains))
    | _ => .spread ((chainsFrom n chains).map (·.pieces)) (right.written (n + groupsAlong chains))

/-- **The texts of the trees of a row** are those that are written. -/
theorem texts_written (n : Nat) (f : Forest) :
    (f.written n).texts = (forestAlternatives n f).1 := by
  induction f generalizing n with
  | empty => rfl
  | leaf index method right ih =>
      rw [written, WrittenForest.texts, ih]
      rfl
  | branch s below right ihb ihr =>
      -- the trees to the right go on with the number where the branch stops
      have hnumber := congrArg Prod.snd
        (branchAlternative_snd (s := s) (forestAlternatives_snd below n))
      rw [forestAlternatives_branch]
      dsimp only at hnumber ⊢
      rw [hnumber, ← ihr]
      cases s with
      | literal text =>
          rw [written, WrittenForest.texts, ihb]
          rfl
      | attr name type | optional inner registry =>
          exact congrArg (fun texts => alternation texts :: _) (map_flatten_chainsFrom n _)

/-- **The pieces of each leaf** are those of the parts on the way to it. -/
theorem ways_written (n : Nat) (f : Forest) :
    (f.written n).ways = (chainsFrom n f.chains).map (·.pieces) := by
  induction f generalizing n with
  | empty => rfl
  | leaf index method right ih =>
      rw [written, WrittenForest.ways, ih]
      rfl
  | branch s below right ihb ihr =>
      rw [chains, chainsFrom_append, List.map_append]
      cases s with
      | literal text =>
          rw [written, WrittenForest.ways, ihb, ihr, chainsFrom_literal, List.map_map, List.map_map]
          rfl
      | attr name type | optional inner registry =>
          exact congrArg (_ ++ ·) (ihr _)

/-- **The trees side by side are the routes side by side**, with common literals written once. The
texts of the trees are written in pieces that the routes below share. From a root to each leaf, and
from left to right, these pieces are the texts of the routes, with the same groups, and the groups
of each route's attributes are the same. -/
theorem factors_ofTable {α : Type} (t : RouteTable α) :
    let f := ofTable t
    (f.written 0).texts = (forestAlternatives 0 f).1 ∧
      (f.written 0).ways = (chainsFrom 0 f.chains).map (·.pieces) ∧
      (f.written 0).ways.map List.flatten = (routeAlternatives 0 0 t.routes).map (·.1) ∧
      bindingsByIndex t.size (forestAlternatives 0 f).2.1 =
        (routeAlternatives 0 0 t.routes).map (·.2) ∧
      ∀ p q, MarkedPattern.ofForest? t f = some p → MarkedPattern.ofTable? t = some q →
        p.bindings = q.bindings := by
  intro f
  have hbindings : bindingsByIndex t.size (forestAlternatives 0 f).2.1 =
      (routeAlternatives 0 0 t.routes).map (·.2) := by
    rw [forestAlternatives_ofTable, bindingsByIndex_marked, routeAlternatives_eq_map, List.map_map]
    rfl
  refine ⟨texts_written 0 f, ways_written 0 f, ?_, hbindings, fun p q hp hq => ?_⟩
  · rw [ways_written, chainsFrom_chains_ofTable, routeAlternatives_eq_map]
    simp only [List.map_map]
    refine List.map_congr_left fun x _ => ?_
    exact x.chain.flatten_pieces.trans x.text_chain
  · rw [MarkedPattern.bindings_ofBody? hp, MarkedPattern.bindings_ofBody? hq, hbindings]

end Forest

end HttpRouting
