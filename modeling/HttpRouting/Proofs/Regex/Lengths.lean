/-
How much of a text the runs of a regular expression take, in the order of preference.

* `Regex.isAnchorFree`, `Regex.isGroupFree`: the expressions whose runs are about nothing but the
  characters that they take;
* `Regex.lengths`: the numbers of characters that the runs take;
* `Regex.run_eq_findSome?_lengths`: backtracking goes through these, until one is accepted;
* `Regex.filter_lengths_append`: the runs that end before the rest of a text do not depend on it.
-/
import HttpRouting.Proofs.Lists
import HttpRouting.Regex.Run

namespace HttpRouting

/-! ### Positions -/

namespace Spot

/-- The position some characters further, or the end of the text. -/
def move (p : Spot) : Nat → Spot
  | 0 => p
  | n + 1 =>
    match p.rest with
    | c :: rest => (p.after c rest).move n
    | [] => p

variable {p : Spot}

lemma move_cons {c : Char} {rest : List Char} (hp : p.rest = c :: rest) (n : Nat) :
    p.move (n + 1) = (p.after c rest).move n := by
  rw [move, hp]

@[simp] lemma move_of_nil (hp : p.rest = []) (n : Nat) : p.move n = p := by
  cases n with
  | zero => rfl
  | succ n => rw [move, hp]

@[simp] lemma rest_move (p : Spot) (n : Nat) : (p.move n).rest = p.rest.drop n := by
  induction n generalizing p with
  | zero => rfl
  | succ n ih =>
      cases hp : p.rest with
      | nil => rw [move_of_nil hp, hp, List.drop_nil]
      | cons c rest =>
          rw [move_cons hp, ih]
          rfl

lemma index_move {n : Nat} (hn : n ≤ p.rest.length) : (p.move n).index = p.index + n := by
  induction n generalizing p with
  | zero => rfl
  | succ n ih =>
      cases hp : p.rest with
      | nil => simp [hp] at hn
      | cons c rest =>
          rw [hp, List.length_cons] at hn
          rw [move_cons hp, ih (Nat.le_of_succ_le_succ hn), after, Nat.add_assoc, Nat.add_comm 1 n]

lemma move_move (p : Spot) (m n : Nat) : (p.move m).move n = p.move (m + n) := by
  induction m generalizing p with
  | zero => rw [Nat.zero_add, move]
  | succ m ih =>
      cases hp : p.rest with
      | nil => rw [move_of_nil hp, move_of_nil hp, move_of_nil hp]
      | cons c rest => rw [move_cons hp, Nat.add_right_comm, move_cons hp, ih]

end Spot

namespace Regex

/-! ### Lengths -/

/-- Whether an expression is about no position but those between characters that it takes. -/
def isAnchorFree : Regex → Bool
  | empty | set _ => true
  | anchor _ => false
  | seq r s | alt r s => r.isAnchorFree && s.isAnchorFree
  | plus r _ | group _ r => r.isAnchorFree

/-- Whether an expression reports no positions. -/
def isGroupFree : Regex → Bool
  | empty | set _ | anchor _ => true
  | seq r s | alt r s => r.isGroupFree && s.isGroupFree
  | plus r _ => r.isGroupFree
  | group .. => false

/-- The numbers of characters that further rounds of a repetition take. -/
def roundsLengths (body : List Char → List Nat) (lazy : Bool) (cs : List Char) : List Nat :=
  let again := (body cs).flatMap fun n =>
    if _h : (cs.drop n).length < cs.length then
      (roundsLengths body lazy (cs.drop n)).map (n + ·)
    else []
  if lazy then 0 :: again else again ++ [0]
termination_by cs.length
decreasing_by exact _h

/-- The numbers of characters that the runs of an expression take, the preferred run first.
Anchors are not met in the expressions that this is about. -/
def lengths : Regex → List Char → List Nat
  | empty, _ => [0]
  | set s, c :: _ => if s.contains c then [1] else []
  | set _, [] => []
  | anchor _, _ => []
  | seq r s, cs => (r.lengths cs).flatMap fun n => (s.lengths (cs.drop n)).map (n + ·)
  | alt r s, cs => r.lengths cs ++ s.lengths cs
  | plus r lazy, cs =>
    (r.lengths cs).flatMap fun n =>
      if (cs.drop n).length < cs.length then (roundsLengths r.lengths lazy (cs.drop n)).map (n + ·)
      else [n]
  | group _ r, cs => r.lengths cs

/-! ### Backtracking -/

/-- Backtracking goes through the lengths of a body, until one is accepted. -/
def Follows (body : Onward → Onward) (lengths : List Char → List Nat) : Prop :=
  ∀ k p, body k p = (lengths p.rest).findSome? fun n => k (p.move n)

lemma rounds_eq_findSome? {body : Onward → Onward} {ls : List Char → List Nat} (lazy : Bool)
    (h : Follows body ls) : Follows (rounds body lazy) (roundsLengths ls lazy) := by
  intro k p
  -- a round that takes nothing is not followed by another, so what is left gets shorter
  induction hm : p.rest.length using Nat.strongRecOn generalizing p with
  | ind m ih =>
      subst hm
      have hagain : body (fun q =>
            if _h : q.rest.length < p.rest.length then rounds body lazy k q else none) p =
          ((ls p.rest).flatMap fun n =>
            if _h : (p.rest.drop n).length < p.rest.length then
              (roundsLengths ls lazy (p.rest.drop n)).map (n + ·)
            else []).findSome? fun n => k (p.move n) := by
        rw [h, findSome?_flatMap]
        congr 1
        funext n
        rw [Spot.rest_move]
        split
        · next hlt =>
            rw [ih _ hlt (p.move n) (by rw [Spot.rest_move]), Spot.rest_move, List.findSome?_map]
            simp only [Function.comp_def, Spot.move_move]
        · rfl
      rw [rounds, roundsLengths.eq_def, hagain]
      cases lazy with
      | true =>
          simp only [if_true, List.findSome?_cons, Spot.move]
          cases k p <;> rfl
      | false =>
          simp only [Bool.false_eq_true, if_false, List.findSome?_append, List.findSome?_cons,
            List.findSome?_nil, Spot.move]
          cases List.findSome? _ _ <;> cases k p <;> rfl

/-- **Backtracking goes through the lengths of the runs**, until one is accepted. -/
theorem run_eq_findSome?_lengths {r : Regex} (ha : r.isAnchorFree = true)
    (hg : r.isGroupFree = true) : Follows r.run r.lengths := by
  induction r with
  | empty =>
      intro k p
      simp [run, lengths, Spot.move]
  | set s =>
      intro k p
      rw [run]
      cases hp : p.rest with
      | nil => rfl
      | cons c rest =>
          rw [lengths]
          by_cases hc : s.contains c <;> simp [hc, Spot.move, hp]
  | anchor a => exact nomatch ha
  | seq r s ihr ihs =>
      rw [isAnchorFree, Bool.and_eq_true] at ha
      rw [isGroupFree, Bool.and_eq_true] at hg
      intro k p
      rw [run, ihr ha.1 hg.1, lengths, findSome?_flatMap]
      congr 1
      funext n
      rw [ihs ha.2 hg.2, List.findSome?_map, Spot.rest_move]
      simp only [Function.comp_def, Spot.move_move]
  | alt r s ihr ihs =>
      rw [isAnchorFree, Bool.and_eq_true] at ha
      rw [isGroupFree, Bool.and_eq_true] at hg
      intro k p
      rw [run, ihr ha.1 hg.1, ihs ha.2 hg.2, lengths, List.findSome?_append]
      cases List.findSome? _ (r.lengths p.rest) <;> rfl
  | plus r lazy ih =>
      have hrounds := rounds_eq_findSome? lazy (ih ha hg)
      intro k p
      rw [run, ih ha hg, lengths, findSome?_flatMap]
      congr 1
      funext n
      rw [Spot.rest_move]
      split
      · rw [hrounds, List.findSome?_map, Spot.rest_move]
        simp only [Function.comp_def, Spot.move_move]
      · rw [List.findSome?_singleton]
  | group name r ih => exact nomatch hg

/-! ### The rest of a text -/

/-- What takes at most some characters does so whatever follows them. -/
def StableAt (ls : List Char → List Nat) (cs : List Char) : Prop :=
  ∀ tail, (ls (cs ++ tail)).filter (· ≤ cs.length) = ls cs

section Stable

variable {ls : List Char → List Nat} {cs : List Char} {n : Nat}

/-- The lengths that a text leads to after some characters, up to its end. -/
lemma StableAt.filter_map_add (hn : n ≤ cs.length) (h : StableAt ls (cs.drop n))
    (tail : List Char) :
    ((ls ((cs ++ tail).drop n)).map (n + ·)).filter (· ≤ cs.length) =
      (ls (cs.drop n)).map (n + ·) := by
  rw [List.drop_append_of_le_length hn, ← h tail, List.filter_map]
  congr 2
  funext m
  rw [Function.comp_apply, List.length_drop]
  exact decide_eq_decide.2 (by omega)

/-- Nothing that takes more characters ends before the rest of the text. -/
lemma filter_map_add_eq_nil (ns : List Nat) {l : Nat} (hn : l < n) :
    (ns.map (n + ·)).filter (· ≤ l) = [] := by
  refine List.filter_eq_nil_iff.2 fun m hm => ?_
  obtain ⟨m', -, rfl⟩ := List.mem_map.1 hm
  simp only [decide_eq_true_eq]
  omega

/-- Whether a round takes a character does not depend on what follows. -/
lemma length_drop_append_lt_iff (hn : n ≤ cs.length) (tail : List Char) :
    ((cs ++ tail).drop n).length < (cs ++ tail).length ↔ (cs.drop n).length < cs.length := by
  simp only [List.length_drop, List.length_append]
  omega

lemma stableAt_rounds (h : ∀ cs, StableAt ls cs) (lazy : Bool) (cs : List Char) :
    StableAt (roundsLengths ls lazy) cs := by
  intro tail
  induction hm : cs.length using Nat.strongRecOn generalizing cs tail with
  | ind m ih =>
      subst hm
      have hagain : ((ls (cs ++ tail)).flatMap fun n =>
            if _h : ((cs ++ tail).drop n).length < (cs ++ tail).length then
              (roundsLengths ls lazy ((cs ++ tail).drop n)).map (n + ·)
            else []).filter (· ≤ cs.length) =
          (ls cs).flatMap fun n =>
            if _h : (cs.drop n).length < cs.length then
              (roundsLengths ls lazy (cs.drop n)).map (n + ·)
            else [] := by
        rw [← h cs tail]
        refine filter_flatMap_eq (fun n _ hn => ?_) fun n _ hn => ?_
        · have hn : n ≤ cs.length := of_decide_eq_true hn
          simp only [length_drop_append_lt_iff hn]
          split
          · next hlt =>
              exact StableAt.filter_map_add hn (fun tail => ih _ hlt (cs.drop n) tail rfl) tail
          · rfl
        · split
          · exact filter_map_add_eq_nil _ (Nat.lt_of_not_le (of_decide_eq_false hn))
          · rfl
      rw [roundsLengths.eq_def ls lazy (cs ++ tail), roundsLengths.eq_def ls lazy cs]
      cases lazy with
      | true =>
          simp only [if_true]
          rw [List.filter_cons_of_pos (by simp), hagain]
      | false =>
          simp only [Bool.false_eq_true, if_false]
          rw [List.filter_append, hagain, List.filter_cons_of_pos (by simp), List.filter_nil]

end Stable

/-- **The runs that end before the rest of a text do not depend on it.** -/
theorem filter_lengths_append {r : Regex} (ha : r.isAnchorFree = true) (cs tail : List Char) :
    (r.lengths (cs ++ tail)).filter (· ≤ cs.length) = r.lengths cs := by
  induction r generalizing cs tail with
  | empty => simp [lengths]
  | set s =>
      cases cs with
      | nil =>
          cases tail with
          | nil => rfl
          | cons c tail =>
              rw [List.nil_append, lengths, lengths]
              split <;> rfl
      | cons c cs =>
          rw [List.cons_append, lengths, lengths]
          split <;> simp
  | anchor a => exact nomatch ha
  | seq r s ihr ihs =>
      rw [isAnchorFree, Bool.and_eq_true] at ha
      rw [lengths, lengths, ← ihr ha.1 cs tail]
      refine filter_flatMap_eq (fun n _ hn => ?_) fun n _ hn => ?_
      · exact StableAt.filter_map_add (of_decide_eq_true hn) (ihs ha.2 (cs.drop n)) tail
      · exact filter_map_add_eq_nil _ (Nat.lt_of_not_le (of_decide_eq_false hn))
  | alt r s ihr ihs =>
      rw [isAnchorFree, Bool.and_eq_true] at ha
      rw [lengths, lengths, List.filter_append, ihr ha.1, ihs ha.2]
  | plus r lazy ih =>
      rw [lengths, lengths, ← ih ha cs tail]
      refine filter_flatMap_eq (fun n _ hn => ?_) fun n _ hn => ?_
      · have hn : n ≤ cs.length := of_decide_eq_true hn
        simp only [length_drop_append_lt_iff hn]
        split
        · exact StableAt.filter_map_add hn (stableAt_rounds (ih ha) lazy _) tail
        · simp [hn]
      · split
        · exact filter_map_add_eq_nil _ (Nat.lt_of_not_le (of_decide_eq_false hn))
        · simpa using hn
  | group name r ih => exact ih ha cs tail

end Regex

end HttpRouting
