/-
Computations that may fail.

* `bind_eq_ok_iff`, `map_eq_ok_iff`: when computations in a row succeed;
* `bind_eq_error_iff`, `map_eq_error_iff`: when they fail;
* `check_eq_ok_iff`, `check_eq_error_iff`: when a computation behind a check succeeds or fails;
* `forall₂_of_mapM_eq_ok`, `exists_of_mem_mapM`: the results of computations on the elements of a
  list.
-/
import Mathlib.Data.List.Forall2
import Mathlib.Tactic.Lemma

namespace HttpRouting

variable {ε α β : Type}

/-- Two computations in a row succeed exactly if both do. -/
lemma bind_eq_ok_iff {x : Except ε α} {f : α → Except ε β} {b : β} :
    x >>= f = .ok b ↔ ∃ a, x = .ok a ∧ f a = .ok b := by
  cases x with
  | error e => exact ⟨fun h => (nomatch h), fun ⟨_, h, _⟩ => (nomatch h)⟩
  | ok a =>
      refine ⟨fun h => ⟨a, rfl, h⟩, ?_⟩
      rintro ⟨_, ha, hb⟩
      cases ha
      exact hb

/-- A computation on the result succeeds exactly if there is one. -/
lemma map_eq_ok_iff {x : Except ε α} {f : α → β} {b : β} :
    x.map f = .ok b ↔ ∃ a, x = .ok a ∧ f a = b := by
  cases x with
  | error e => exact ⟨fun h => (nomatch h), fun ⟨_, h, _⟩ => (nomatch h)⟩
  | ok a => simp [Except.map]

/-- Two computations in a row fail as the first one that does. -/
lemma bind_eq_error_iff {x : Except ε α} {f : α → Except ε β} {e : ε} :
    x >>= f = .error e ↔ x = .error e ∨ ∃ a, x = .ok a ∧ f a = .error e := by
  cases x with
  | error e' => exact ⟨fun h => .inl (congrArg _ (Except.error.inj h)),
      fun h => h.elim (fun h => congrArg _ (Except.error.inj h)) fun ⟨_, h, _⟩ => (nomatch h)⟩
  | ok a =>
      refine ⟨fun h => .inr ⟨a, rfl, h⟩, ?_⟩
      rintro (h | ⟨_, ha, h⟩)
      · exact nomatch h
      · cases ha
        exact h

/-- A computation on the result fails exactly if there is none. -/
lemma map_eq_error_iff {x : Except ε α} {f : α → β} {e : ε} :
    x.map f = .error e ↔ x = .error e := by
  cases x with
  | error e' => exact ⟨fun h => congrArg _ (Except.error.inj h),
      fun h => congrArg _ (Except.error.inj h)⟩
  | ok a => exact ⟨fun h => (nomatch h), fun h => (nomatch h)⟩

/-- What follows a check is reached exactly if the check raises no fault. -/
lemma check_eq_ok_iff {p : Prop} [Decidable p] {e : ε} {f : PUnit → Except ε β} {b : β} :
    (if p then throw e >>= f else f ()) = .ok b ↔ ¬ p ∧ f () = .ok b := by
  split
  · next hp => exact ⟨fun h => (nomatch h), fun h => absurd hp h.1⟩
  · next hp => exact ⟨fun h => ⟨hp, h⟩, fun h => h.2⟩

/-- A check fails, or what follows it does. -/
lemma check_eq_error_iff {p : Prop} [Decidable p] {e e' : ε} {f : PUnit → Except ε β} :
    (if p then throw e >>= f else f ()) = .error e' ↔ p ∧ e = e' ∨ ¬ p ∧ f () = .error e' := by
  split
  · next hp =>
      constructor
      · exact fun h => .inl ⟨hp, Except.error.inj h⟩
      · rintro (⟨-, rfl⟩ | ⟨hnot, -⟩)
        · rfl
        · exact absurd hp hnot
  · next hp => exact ⟨fun h => .inr ⟨hp, h⟩, fun h => h.elim (fun h => absurd h.1 hp) And.right⟩

/-- The results for the elements of a list go together with the elements. -/
lemma forall₂_of_mapM_eq_ok {f : α → Except ε β} {as : List α} {bs : List β}
    (h : as.mapM f = .ok bs) : List.Forall₂ (fun a b => f a = .ok b) as bs := by
  induction as generalizing bs with
  | nil =>
      cases h
      exact .nil
  | cons a as ih =>
      rw [List.mapM_cons] at h
      obtain ⟨first, hfirst, h⟩ := bind_eq_ok_iff.1 h
      obtain ⟨others, hothers, he⟩ := bind_eq_ok_iff.1 h
      cases he
      exact .cons hfirst (ih hothers)

/-- They are results of elements. -/
lemma exists_of_mem_mapM {f : α → Except ε β} {as : List α} {bs : List β}
    (h : as.mapM f = .ok bs) {b : β} (hb : b ∈ bs) : ∃ a, f a = .ok b := by
  have hall := forall₂_of_mapM_eq_ok h
  clear h
  induction hall with
  | nil => exact nomatch hb
  | cons ha _ ih =>
      rcases List.mem_cons.1 hb with rfl | hb
      · exact ⟨_, ha⟩
      · exact ih hb

end HttpRouting
