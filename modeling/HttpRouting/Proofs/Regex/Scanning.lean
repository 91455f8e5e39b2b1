/-
The scanner computes what backtracking means.

* `Regex.run_congr`: a run depends on how it goes on at the positions that it can reach;
* `Scanner.memory`: the scanner of an expression that remembers a position;
* `Scanner.value_memory`: the value read off the memory is the preferred run;
* `Scanner.advance_memory`: advancing gives this run, and remembers one position more;
* `Scanner.search_eq`: searching in one pass is searching by backtracking.
-/
import HttpRouting.Regex.Scanner
import Mathlib.Tactic.Lemma

namespace HttpRouting

/-! ### What a run depends on -/

/-- The position after the next character, if there is one. -/
def Spot.next? (p : Spot) : Option Spot :=
  match p.rest with
  | c :: rest => some (p.after c rest)
  | [] => none

/-- The characters around a position. -/
def Spot.place (p : Spot) : Place :=
  ⟨p.index, p.before, p.rest.head?⟩

namespace Regex

/-- Two ways to go on agree at all positions with at most `n` characters left. -/
def AgreeUpTo (n : Nat) (k k' : Onward) : Prop :=
  ∀ q : Spot, q.rest.length ≤ n → k q = k' q

variable {k k' : Onward} {n : Nat}

/-- A body whose runs depend on the positions that they can reach. -/
def Local (body : Onward → Onward) : Prop :=
  ∀ {n k k'}, AgreeUpTo n k k' → AgreeUpTo n (body k) (body k')

lemma rounds_congr {body : Onward → Onward} (hbody : Local body) (lazy : Bool)
    (h : AgreeUpTo n k k') : AgreeUpTo n (rounds body lazy k) (rounds body lazy k') := by
  intro p hp
  induction hm : p.rest.length using Nat.strongRecOn generalizing p with
  | ind m ih =>
      subst hm
      have hround : AgreeUpTo p.rest.length
          (fun q => if _h : q.rest.length < p.rest.length then rounds body lazy k q else none)
          (fun q => if _h : q.rest.length < p.rest.length then rounds body lazy k' q else none) := by
        intro q _
        by_cases hlt : q.rest.length < p.rest.length
        · simp only [dif_pos hlt]
          exact ih _ hlt q (by omega) rfl
        · simp only [dif_neg hlt]
      rw [rounds, rounds, hbody hround p (Nat.le_refl _), h p hp]

/-- A run depends on how it goes on at the positions that it can reach. -/
lemma run_congr (r : Regex) : Local r.run := by
  induction r with
  | empty => exact fun h => h
  | set s =>
      intro n k k' h p hp
      rw [run, run]
      cases hr : p.rest with
      | nil => rfl
      | cons c rest =>
          have hk : k (p.after c rest) = k' (p.after c rest) := by
            refine h _ ?_
            rw [hr, List.length_cons] at hp
            exact Nat.le_of_succ_le hp
          simp only [hk]
  | anchor a =>
      intro n k k' h p hp
      rw [run, run, h p hp]
  | seq r s ihr ihs => exact fun h => ihr (ihs h)
  | alt r s ihr ihs =>
      intro n k k' h p hp
      rw [run, run, ihr h p hp, ihs h p hp]
  | plus r lazy ih =>
      intro n k k' h p hp
      rw [run, run]
      refine ih (fun q hq => ?_) p (Nat.le_refl _)
      rw [rounds_congr ih lazy h q (Nat.le_trans hq hp), h q (Nat.le_trans hq hp)]
  | group name r ih =>
      intro n k k' h p hp
      rw [run, run]
      refine congrArg _ (ih (fun q hq => ?_) p (Nat.le_refl _))
      rw [h q (Nat.le_trans hq hp)]

/-- A round goes on with another one, or with what follows. -/
lemma rounds_eq (r : Regex) (lazy : Bool) (k : Onward) (p : Spot) :
    rounds r.run lazy k p =
      let again := r.run (fun q =>
        if q.rest.length < p.rest.length then rounds r.run lazy k q else none) p
      if lazy then (k p).orElse fun _ => again else again.orElse fun _ => k p := by
  rw [rounds]
  rfl

end Regex

/-! ### Memory -/

namespace Scanner

/-- The scanner of an expression that remembers a position: each set knows how the run goes on
from there. -/
def memory : Regex → Onward → Option Spot → Scanner
  | .empty, _, _ => empty
  | .set s, k, spot? => set s (spot?.bind k)
  | .anchor a, _, _ => anchor a
  | .seq r s, k, spot? => seq (memory r (s.run k) spot?) (memory s k spot?)
  | .alt r s, k, spot? => alt (memory r k spot?) (memory s k spot?)
  | .plus r lazy, k, spot? => plus (memory r (Regex.rounds r.run lazy k) spot?) lazy
  | .group name r, k, spot? =>
    group name (memory r (fun q => (k q).map (.closed name q.index :: ·)) spot?)

/-- At first, nothing is remembered. -/
lemma ofRegex_eq_memory (r : Regex) (k : Onward) : ofRegex r = memory r k none := by
  induction r generalizing k with
  | empty | set s | anchor a => rfl
  | seq r s ihr ihs => rw [ofRegex, memory, ihr, ihs]
  | alt r s ihr ihs => rw [ofRegex, memory, ihr, ihs]
  | plus r lazy ih => rw [ofRegex, memory, ih]
  | group name r ih => rw [ofRegex, memory, ih]

/-- A set goes on where it is remembered. -/
lemma any_next?_eq (s : CharSet) (k : Onward) (p : Spot) :
    (if p.place.after.any s.contains then p.next?.bind k else none) = (Regex.set s).run k p := by
  rw [Regex.run, Spot.place, Spot.next?]
  cases p.rest <;> rfl

/-- **The value read off the memory is the preferred run.** The memory may stem from another way to
go on, as long as the two agree at all later positions. -/
theorem value_memory (r : Regex) (k k' : Onward) (p : Spot)
    (h : ∀ q : Spot, q.rest.length < p.rest.length → k' q = k q) :
    value p.place (memory r k' p.next?) (k p) = r.run k p := by
  induction r generalizing k k' with
  | empty => rfl
  | set s =>
      rw [memory, value, any_next?_eq, Regex.run, Regex.run]
      cases hr : p.rest with
      | nil => rfl
      | cons c rest => simp only [h (p.after c rest) (by simp [Spot.after, hr])]
  | anchor a => rfl
  | seq r s ihr ihs =>
      rw [memory, value, Regex.run, ihs _ _ h]
      exact ihr _ _ fun q hq => Regex.run_congr s (fun q' hq' => h q' (by omega)) q (Nat.le_refl _)
  | alt r s ihr ihs => rw [memory, value, Regex.run, ihr _ _ h, ihs _ _ h]
  | plus r lazy ih =>
      have hr := ih (fun q => if q.rest.length < p.rest.length then
        Regex.rounds r.run lazy k q else k q) (Regex.rounds r.run lazy k') fun q hq => by
          rw [if_pos hq]
          exact Regex.rounds_congr (Regex.run_congr r) lazy (fun q' hq' => h q' (by omega)) q
            (Nat.le_refl _)
      rw [if_neg (Nat.lt_irrefl _)] at hr
      exact hr
  | group name r ih =>
      rw [memory, value, Regex.run]
      refine congrArg _ (ih (fun q => (k q).map (.closed name q.index :: ·)) _ fun q hq => ?_)
      rw [h q hq]

/-- How a repetition goes on after a round. -/
lemma again_memory (r : Regex) (lazy : Bool) (k : Onward) (p : Spot) :
    again p.place (memory r (Regex.rounds r.run lazy k) p.next?) lazy (k p) =
      Regex.rounds r.run lazy k p := by
  have hr := value_memory r (fun q =>
    if q.rest.length < p.rest.length then Regex.rounds r.run lazy k q else none)
    (Regex.rounds r.run lazy k) p fun q hq => (if_pos hq).symm
  rw [if_neg (Nat.lt_irrefl _)] at hr
  rw [again, hr, Regex.rounds_eq]

/-- **Advancing gives the preferred run**, and remembers the position. -/
theorem advance_memory (r : Regex) (k : Onward) (p : Spot) :
    advance p.place (memory r k p.next?) (k p) = (r.run k p, memory r k (some p)) := by
  induction r generalizing k with
  | empty => rfl
  | set s => rw [memory, advance, any_next?_eq, memory, Option.bind_some]
  | anchor a => rfl
  | seq r s ihr ihs => simp only [memory, advance, ihs, ihr (s.run k), Regex.run]
  | alt r s ihr ihs => simp only [memory, advance, ihs, ihr, Regex.run]
  | plus r lazy ih =>
      have hv := value_memory (.plus r lazy) k k p fun _ _ => rfl
      rw [memory, value] at hv
      rw [memory, advance, again_memory, ih, hv, memory]
  | group name r ih =>
      have hr := ih fun q => (k q).map (.closed name q.index :: ·)
      rw [memory, advance]
      rw [show p.place.index = p.index from rfl, hr]
      rfl

/-- A sweep remembers the first position, and finds the preferred run. -/
lemma sweep_eq (r : Regex) (index : Nat) (before : Option Char) (cs : List Char) :
    sweep (ofRegex r) index before cs =
      (r.searchFrom index before cs, memory r (fun _ => some []) (some ⟨index, before, cs⟩)) := by
  induction cs generalizing index before with
  | nil =>
      rw [sweep, ofRegex_eq_memory r fun _ => some [], Regex.searchFrom]
      exact advance_memory r (fun _ => some []) ⟨index, before, []⟩
  | cons c rest ih =>
      have hadvance := advance_memory r (fun _ => some []) ⟨index, before, c :: rest⟩
      simp only [sweep, ih, Regex.searchFrom]
      rw [show memory r (fun _ => some []) (some ⟨index + 1, some c, rest⟩) =
        memory r (fun _ => some []) (Spot.next? ⟨index, before, c :: rest⟩) from rfl]
      simp only [Spot.place, List.head?_cons] at hadvance
      rw [hadvance]

/-- **Searching in one pass is searching by backtracking.** -/
theorem search_eq (r : Regex) (text : List Char) : search r text = r.search text := by
  rw [search, sweep_eq, Regex.search]

end Scanner

end HttpRouting
