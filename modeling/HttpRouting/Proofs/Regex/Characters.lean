/-
Which characters the runs of a regular expression take.

* `Regex.avoids`: no set of an expression holds a character;
* `Regex.takesSome`: whichever way an expression is run, it meets a set;
* `Regex.mem_roundsLengths_iff`: what further rounds of a repetition take;
* `Regex.not_mem_take`: runs do not take a character that the expression avoids;
* `Regex.pos_of_mem_lengths`: runs of an expression that meets a set take a character.
-/
import HttpRouting.Proofs.Regex.Lengths

namespace HttpRouting.Regex

/-- Whether no set of an expression holds a character. -/
def avoids (c : Char) : Regex → Bool
  | empty | anchor _ => true
  | set s => !s.contains c
  | seq r s | alt r s => r.avoids c && s.avoids c
  | plus r _ | group _ r => r.avoids c

/-- Whether an expression meets a set, whichever way it is run. -/
def takesSome : Regex → Bool
  | empty | anchor _ => false
  | set _ => true
  | seq r s => r.takesSome || s.takesSome
  | alt r s => r.takesSome && s.takesSome
  | plus r _ | group _ r => r.takesSome

/-- Further rounds of a repetition take nothing, or what a round takes and then further rounds. -/
lemma mem_roundsLengths_iff {body : List Char → List Nat} {lazy : Bool} {cs : List Char} {n : Nat} :
    n ∈ roundsLengths body lazy cs ↔
      n = 0 ∨ ∃ m ∈ body cs, (cs.drop m).length < cs.length ∧
        ∃ k ∈ roundsLengths body lazy (cs.drop m), m + k = n := by
  have hagain : n ∈ ((body cs).flatMap fun m =>
        if _h : (cs.drop m).length < cs.length then
          (roundsLengths body lazy (cs.drop m)).map (m + ·)
        else []) ↔
      ∃ m ∈ body cs, (cs.drop m).length < cs.length ∧
        ∃ k ∈ roundsLengths body lazy (cs.drop m), m + k = n := by
    rw [List.mem_flatMap]
    refine exists_congr fun m => and_congr_right fun _ => ?_
    split
    · next hlt => rw [List.mem_map, and_iff_right hlt]
    · next hlt => exact iff_of_false List.not_mem_nil fun h => hlt h.1
  rw [roundsLengths]
  cases lazy with
  | true => rw [if_pos rfl, List.mem_cons, hagain]
  | false => rw [if_neg (by decide), List.mem_append, hagain, List.mem_singleton, or_comm]

section Avoids

variable {c : Char}

/-- What comes after some characters holds a character only if it comes later. -/
lemma not_mem_take_add {cs : List Char} {m k : Nat} (hm : c ∉ cs.take m)
    (hk : c ∉ (cs.drop m).take k) : c ∉ cs.take (m + k) := by
  rw [List.take_add, List.mem_append]
  exact fun h => h.elim hm hk

lemma not_mem_take_of_rounds {body : List Char → List Nat} {lazy : Bool}
    (hbody : ∀ cs, ∀ n ∈ body cs, c ∉ cs.take n) (cs : List Char) {n : Nat}
    (hn : n ∈ roundsLengths body lazy cs) : c ∉ cs.take n := by
  -- a round that takes nothing is not followed by another, so what is left gets shorter
  induction hl : cs.length using Nat.strongRecOn generalizing cs n with
  | ind l ih =>
      subst hl
      rcases mem_roundsLengths_iff.1 hn with rfl | ⟨m, hm, hlt, k, hk, rfl⟩
      · simp
      · exact not_mem_take_add (hbody cs m hm) (ih _ hlt (cs.drop m) hk rfl)

/-- **Runs do not take a character that the expression avoids.** -/
theorem not_mem_take {r : Regex} (h : r.avoids c = true) {cs : List Char} {n : Nat}
    (hn : n ∈ r.lengths cs) : c ∉ cs.take n := by
  induction r generalizing cs n with
  | empty =>
      rw [List.mem_singleton.1 hn]
      simp
  | set s =>
      cases cs with
      | nil => cases hn
      | cons d cs =>
          rw [lengths] at hn
          split at hn
          · next hd =>
              rw [List.mem_singleton.1 hn, List.take_succ_cons, List.take_zero, List.mem_singleton]
              rintro rfl
              rw [avoids, hd] at h
              cases h
          · cases hn
  | anchor a => cases hn
  | seq r s ihr ihs =>
      obtain ⟨hr, hs⟩ := Bool.and_eq_true_iff.1 h
      obtain ⟨m, hm, hn⟩ := List.mem_flatMap.1 hn
      obtain ⟨k, hk, rfl⟩ := List.mem_map.1 hn
      exact not_mem_take_add (ihr hr hm) (ihs hs hk)
  | alt r s ihr ihs =>
      obtain ⟨hr, hs⟩ := Bool.and_eq_true_iff.1 h
      exact (List.mem_append.1 hn).elim (ihr hr) (ihs hs)
  | plus r lazy ih =>
      obtain ⟨m, hm, hn⟩ := List.mem_flatMap.1 hn
      split at hn
      · obtain ⟨k, hk, rfl⟩ := List.mem_map.1 hn
        exact not_mem_take_add (ih h hm) (not_mem_take_of_rounds (fun _ _ => ih h) _ hk)
      · rw [List.mem_singleton.1 hn]
        exact ih h hm
  | group name r ih => exact ih h hn

end Avoids

/-- **Runs of an expression that meets a set take a character.** -/
theorem pos_of_mem_lengths {r : Regex} (h : r.takesSome = true) {cs : List Char} {n : Nat}
    (hn : n ∈ r.lengths cs) : 0 < n := by
  induction r generalizing cs n with
  | empty | anchor a => cases h
  | set s =>
      cases cs with
      | nil => cases hn
      | cons d cs =>
          rw [lengths] at hn
          split at hn
          · rw [List.mem_singleton.1 hn]
            exact Nat.one_pos
          · cases hn
  | seq r s ihr ihs =>
      obtain ⟨m, hm, hn⟩ := List.mem_flatMap.1 hn
      obtain ⟨k, hk, rfl⟩ := List.mem_map.1 hn
      rcases Bool.or_eq_true_iff.1 h with hr | hs
      · exact Nat.add_pos_left (ihr hr hm) k
      · exact Nat.add_pos_right m (ihs hs hk)
  | alt r s ihr ihs =>
      obtain ⟨hr, hs⟩ := Bool.and_eq_true_iff.1 h
      exact (List.mem_append.1 hn).elim (ihr hr) (ihs hs)
  | plus r lazy ih =>
      obtain ⟨m, hm, hn⟩ := List.mem_flatMap.1 hn
      split at hn
      · obtain ⟨k, -, rfl⟩ := List.mem_map.1 hn
        exact Nat.add_pos_left (ih h hm) k
      · rw [List.mem_singleton.1 hn]
        exact ih h hm
  | group name r ih => exact ih h hn

end HttpRouting.Regex
