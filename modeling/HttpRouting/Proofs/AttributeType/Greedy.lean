/-
Types that take the longest value first.

* `Regex.isRigid`: the expressions that take one number of characters only;
* `Regex.isGreedy`: those, and the repetitions of a set of characters that are not lazy;
* `Regex.pairwise_lengths`: their runs take fewer and fewer characters;
* `AttributeType.lengths_eq_filter_ends`: they take the values that the type accepts, from the
  longest to the shortest;
* `TypeRegistry.isGreedy_default`: the built-in types are of this kind.
-/
import HttpRouting.AttributeType.Builder
import HttpRouting.Matching.Ways
import HttpRouting.Proofs.Path.Splits
import Mathlib.Data.List.Sort

namespace HttpRouting

/-! ### Expressions -/

namespace Regex

/-- Whether all runs of an expression take the same number of characters. -/
def isRigid : Regex → Bool
  | empty | set _ => true
  | seq r s => r.isRigid && s.isRigid
  | _ => false

/-- Whether an expression prefers to take as much as it can. -/
def isGreedy : Regex → Bool
  | plus (set _) lazy => !lazy
  | r => r.isRigid

/-- There is at most one run. -/
lemma length_lengths_le_one {r : Regex} (h : r.isRigid = true) (cs : List Char) :
    (r.lengths cs).length ≤ 1 := by
  induction r generalizing cs with
  | empty => exact Nat.le_refl 1
  | set s =>
      cases cs with
      | nil => exact Nat.zero_le 1
      | cons c cs =>
          rw [lengths]
          split
          · exact Nat.le_refl 1
          · exact Nat.zero_le 1
  | seq r s ihr ihs =>
      rw [isRigid, Bool.and_eq_true] at h
      have hr := ihr h.1 cs
      rw [lengths]
      rcases hl : r.lengths cs with _ | ⟨n, _ | ⟨n', ns⟩⟩
      · exact Nat.zero_le 1
      · rw [List.flatMap_singleton, List.length_map]
        exact ihs h.2 (cs.drop n)
      · simp [hl] at hr
  | anchor a | alt r s | plus r lazy | group name r => simp [isRigid] at h

/-- Adding to fewer and fewer characters. -/
lemma pairwise_map_add {ns : List Nat} (h : ns.Pairwise (· > ·)) (n : Nat) :
    (ns.map (n + ·)).Pairwise (· > ·) :=
  List.pairwise_map.2 (h.imp fun hlt => Nat.add_lt_add_left hlt n)

/-- Rounds of a repetition of a set of characters take fewer and fewer of them. -/
lemma pairwise_rounds (s : CharSet) (cs : List Char) :
    (roundsLengths (set s).lengths false cs).Pairwise (· > ·) := by
  induction cs with
  | nil =>
      rw [roundsLengths]
      exact List.pairwise_singleton _ _
  | cons c cs ih =>
      have hrounds : roundsLengths (set s).lengths false (c :: cs) =
          (if s.contains c then (roundsLengths (set s).lengths false cs).map (1 + ·) else []) ++
            [0] := by
        rw [roundsLengths, lengths]
        by_cases hc : s.contains c <;> simp [hc]
      rw [hrounds]
      split
      · refine List.pairwise_append.2 ⟨pairwise_map_add ih 1, List.pairwise_singleton _ _, ?_⟩
        intro n hn m hm
        obtain ⟨n', -, rfl⟩ := List.mem_map.1 hn
        rw [List.mem_singleton.1 hm]
        show 0 < 1 + n'
        omega
      · exact List.pairwise_singleton _ _

/-- **The runs of a greedy expression take fewer and fewer characters.** -/
theorem pairwise_lengths {r : Regex} (h : r.isGreedy = true) (cs : List Char) :
    (r.lengths cs).Pairwise (· > ·) := by
  have hrigid : r.isRigid = true → (r.lengths cs).Pairwise (· > ·) := by
    intro hr
    have hle := length_lengths_le_one hr cs
    match r.lengths cs, hle with
    | [], _ => exact .nil
    | [n], _ => exact List.pairwise_singleton _ n
  unfold isGreedy at h
  split at h
  · next s lazy =>
      obtain rfl : lazy = false := by simpa using h
      cases cs with
      | nil => exact .nil
      | cons c cs =>
          have hplus : (plus (set s) false).lengths (c :: cs) =
              if s.contains c then (roundsLengths (set s).lengths false cs).map (1 + ·) else [] := by
            rw [lengths, lengths]
            split <;> simp
          rw [hplus]
          split
          · exact pairwise_map_add (pairwise_rounds s cs) 1
          · exact .nil
  · exact hrigid h

end Regex

/-! ### Types -/

/-- The numbers up to a bound come from the largest to the smallest. -/
lemma pairwise_ends (n : Nat) : (Program.ends n).Pairwise (· > ·) := by
  rw [Program.ends, List.pairwise_reverse]
  exact List.pairwise_lt_range

/-- **A greedy type takes the values that it accepts, from the longest to the shortest.** -/
theorem AttributeType.lengths_eq_filter_ends {t : AttributeType} (h : t.IsSelfContained)
    (hgreedy : t.regex.isGreedy = true) (cs : List Char) :
    t.lengths cs = (Program.ends cs.length).filter fun n => t.accepts (cs.take n) := by
  -- both lists decrease, so that it is enough to compare their members
  refine List.Pairwise.eq_of_mem_iff (Regex.pairwise_lengths hgreedy cs)
    ((pairwise_ends cs.length).filter _) fun n => ?_
  rw [List.mem_filter, Program.mem_ends]
  constructor
  · intro hn
    have hle := h.le_length hn
    exact ⟨hle, (h.accepts_take_iff hle).2 hn⟩
  · rintro ⟨hle, ha⟩
    exact (h.accepts_take_iff hle).1 ha

namespace TypeRegistry

/-- All types of a registry are greedy, and their patterns are ones on their own. -/
def IsGreedy (r : TypeRegistry) : Prop :=
  ∀ t ∈ r.types, t.IsSelfContained ∧ t.regex.isGreedy = true

lemma IsGreedy.isSelfContained {r : TypeRegistry} (h : r.IsGreedy) : r.IsSelfContained :=
  fun t ht => (h t ht).1

lemma IsGreedy.typeOf {r : TypeRegistry} (h : r.IsGreedy) (name : Option String) :
    (r.typeOf name).IsSelfContained ∧ (r.typeOf name).regex.isGreedy = true :=
  h _ (r.typeOf_mem name)

/-- The built-in types are greedy. -/
theorem isGreedy_default : TypeRegistry.default.IsGreedy := by
  unfold IsGreedy
  decide +kernel

end TypeRegistry

end HttpRouting
