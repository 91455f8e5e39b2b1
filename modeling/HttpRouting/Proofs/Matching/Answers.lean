/-
What the outcome of a request has to be, given the answer of each route.

* `Answers`: the method of each route, with its captures if it takes the path;
* `Decides`: an outcome is the one that the answers call for;
* `Decides.withoutCaptures_eq`: which route it names depends on the routes that take the path only;
* `Decides.unique`: there is at most one;
* `Answers.search`: trying the routes in turn;
* `search_decides`: this gives the outcome that the answers call for.
-/
import HttpRouting.Proofs.Matching.Recording

namespace HttpRouting

/-- The answers of routes, in their order: the method of each, and its captures if it takes the
path. -/
abbrev Answers := List (Method × Option Captures)

/-- Methods with the same name are equal. -/
lemma Method.eq_of_name_eq {m n : Method} (h : m.name = n.name) : m = n := by
  obtain ⟨_, _⟩ := m
  obtain ⟨_, _⟩ := n
  cases h
  rfl

/-! ### Outcomes -/

namespace Answers

/-- The route `i`, which has the method `m`, takes the path. -/
def Hit (as : Answers) (m : Method) (i : Nat) : Prop :=
  ∃ c, as[i]? = some (m, some c)

/-- A route has one method. -/
lemma Hit.method_eq {as : Answers} {m m' : Method} {i : Nat} (h : as.Hit m i) (h' : as.Hit m' i) :
    m = m' := by
  obtain ⟨c, hc⟩ := h
  obtain ⟨c', hc'⟩ := h'
  rw [hc] at hc'
  cases hc'
  rfl

lemma hit_append_of_lt {as bs : Answers} {m : Method} {i : Nat} (h : i < as.length) :
    Hit (as ++ bs) m i ↔ as.Hit m i := by
  rw [Hit, Hit, List.getElem?_append_left h]

lemma Hit.lt_length {as : Answers} {m : Method} {i : Nat} (h : as.Hit m i) : i < as.length := by
  obtain ⟨c, hc⟩ := h
  exact (List.getElem?_eq_some_iff.1 hc).1

lemma hit_append_some {as : Answers} {m m' : Method} {c : Captures} {i : Nat} :
    Hit (as ++ [(m', some c)]) m i ↔ as.Hit m i ∨ m = m' ∧ i = as.length := by
  constructor
  · intro h
    have hlt := h.lt_length
    rw [List.length_append, List.length_singleton] at hlt
    rcases Nat.lt_or_eq_of_le (Nat.le_of_lt_succ hlt) with hi | rfl
    · exact .inl ((hit_append_of_lt hi).1 h)
    · exact .inr ⟨h.method_eq ⟨c, by simp⟩, rfl⟩
  · rintro (h | ⟨rfl, rfl⟩)
    · exact (hit_append_of_lt h.lt_length).2 h
    · exact ⟨c, by simp⟩

lemma hit_append_none {as : Answers} {m m' : Method} {i : Nat} :
    Hit (as ++ [(m', none)]) m i ↔ as.Hit m i := by
  constructor
  · intro h
    have hlt := h.lt_length
    rw [List.length_append, List.length_singleton] at hlt
    rcases Nat.lt_or_eq_of_le (Nat.le_of_lt_succ hlt) with hi | rfl
    · exact (hit_append_of_lt hi).1 h
    · obtain ⟨c, hc⟩ := h
      simp at hc
  · intro h
    exact (hit_append_of_lt h.lt_length).2 h

/-- Which routes take a path does not depend on their captures. -/
lemma hit_congr {as bs : Answers}
    (h : as.map (fun a => (a.1, a.2.isSome)) = bs.map fun b => (b.1, b.2.isSome))
    (m : Method) (i : Nat) : as.Hit m i ↔ bs.Hit m i := by
  have key : ∀ as : Answers, as.Hit m i ↔
      (as.map fun a => (a.1, a.2.isSome))[i]? = some (m, true) := by
    intro as
    rw [List.getElem?_map, Hit]
    rcases as[i]? with _ | ⟨m', _ | c⟩ <;> simp
  rw [key as, key bs, h]

end Answers

/-- The outcome that the answers of routes call for: the first route with the method that takes the
path, or else the methods of the routes that do. -/
inductive Decides (as : Answers) (method : String) : Outcome → Prop where
  | matched {m : Method} {i : Nat} {c : Captures} (name : m.name = method)
      (hit : as[i]? = some (m, some c)) (first : ∀ j < i, ¬ as.Hit m j) :
      Decides as method (.matched i c)
  | failed {allowed : List (Method × Nat)} (none : ∀ m i, as.Hit m i → m.name ≠ method)
      (lists : Lists as.Hit allowed) : Decides as method (.failed allowed)

/-- An outcome apart from the captures: the route, or the methods that would have been allowed. -/
def Outcome.withoutCaptures : Outcome → Outcome
  | matched index _ => matched index []
  | failed allowed => failed allowed

/-- What answers call for is the same apart from the captures, if the same routes take the path. -/
theorem Decides.withoutCaptures_eq {as bs : Answers} {method : String} {o o' : Outcome}
    (h : Decides as method o) (h' : Decides bs method o') (hhits : ∀ m i, as.Hit m i ↔ bs.Hit m i) :
    o.withoutCaptures = o'.withoutCaptures := by
  cases h with
  | @matched m i c name hit first =>
      cases h' with
      | @matched m' i' c' name' hit' first' =>
          obtain rfl : m = m' := Method.eq_of_name_eq (name.trans name'.symm)
          have hi : i = i' := by
            rcases Nat.lt_trichotomy i i' with hlt | he | hgt
            · exact absurd ((hhits m i).1 ⟨c, hit⟩) (first' i hlt)
            · exact he
            · exact absurd ((hhits m i').2 ⟨c', hit'⟩) (first i' hgt)
          rw [hi]
          rfl
      | failed none lists => exact absurd name (none m i ((hhits m i).1 ⟨c, hit⟩))
  | failed none lists =>
      cases h' with
      | @matched m i c name hit first => exact absurd name (none m i ((hhits m i).2 ⟨c, hit⟩))
      | failed none' lists' => rw [(lists.congr hhits).unique lists']

/-- There is at most one outcome that answers call for. -/
theorem Decides.unique {as : Answers} {method : String} {o o' : Outcome} (h : Decides as method o)
    (h' : Decides as method o') : o = o' := by
  have heq := h.withoutCaptures_eq h' fun _ _ => Iff.rfl
  cases h with
  | matched name hit first =>
      cases h' with
      | matched name' hit' first' =>
          cases heq
          rw [hit] at hit'
          cases hit'
          rfl
      | failed none' lists' => exact nomatch heq
  | failed none lists =>
      cases h' with
      | matched name' hit' first' => exact nomatch heq
      | failed none' lists' => exact heq

/-! ### Trying routes in turn -/

namespace Answers

/-- Tries the answers from the one with the given index on. `allowed` holds what the ones before
allow. -/
def search (method : String) (allowed : AllowedMethods) (index : Nat) : Answers → Outcome
  | [] => allowed.outcome
  | (_, none) :: as => search method allowed (index + 1) as
  | (m, some c) :: as =>
    if m.name = method then .matched index c
    else search method (allowed.record m index) (index + 1) as

/-- The search goes on after answers that do not decide. -/
lemma search_decides_append {method : String} {allowed : AllowedMethods} (before as : Answers)
    (hallowed : allowed.Notes before.Hit) (hbefore : ∀ m i, before.Hit m i → m.name ≠ method) :
    Decides (before ++ as) method (search method allowed before.length as) := by
  -- the answers that did not decide move over to `before`, one by one
  induction as generalizing before allowed with
  | nil =>
      rw [List.append_nil]
      exact .failed hbefore (hallowed.lists Hit.method_eq)
  | cons a as ih =>
      rw [List.append_cons]
      obtain ⟨m, _ | c⟩ := a
      · have hrest := ih (before ++ [(m, none)])
          (hallowed.congr fun _ _ => hit_append_none.symm)
          fun m' i hi => hbefore m' i (hit_append_none.1 hi)
        rwa [List.length_append] at hrest
      · rw [search]
        split
        · next hm =>
            refine .matched hm (by simp) fun j hj hhit => ?_
            rw [← List.append_cons] at hhit
            exact hbefore m j ((hit_append_of_lt hj).1 hhit) hm
        · next hm =>
            have hrest := ih (before ++ [(m, some c)])
              ((hallowed.record m before.length).congr fun _ _ => hit_append_some.symm)
              fun m' i hi => by
                rcases hit_append_some.1 hi with h | ⟨rfl, -⟩
                · exact hbefore m' i h
                · exact hm
            rwa [List.length_append] at hrest

/-- **Trying the routes in turn gives the outcome that their answers call for.** -/
theorem search_decides (method : String) (as : Answers) :
    Decides as method (search method {} 0 as) :=
  search_decides_append [] as
    (AllowedMethods.notes_empty.congr fun _ _ => by simp [Hit]) fun _ _ h => by simp [Hit] at h

end Answers

end HttpRouting
