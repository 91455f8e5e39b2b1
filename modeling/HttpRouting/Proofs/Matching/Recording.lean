/-
Taking note of the methods that would have been allowed.

* `Lists`: a list of allowed methods holds each method of a route that takes the path, with the
  first such route, in the order of the routes;
* `Lists.unique`: there is at most one;
* `AllowedMethods.Notes`: what the accumulator of allowed methods stands for;
* `AllowedMethods.Notes.record`, `AllowedMethods.Notes.recordAll`: taking note of one route, and of
  several in turn;
* `AllowedMethods.notes_foldl`: a search that takes note of some of the routes that it goes through;
* `AllowedMethods.Notes.lists`: the list in the end;
* `AllowedMethods.toList_recordAll_congr`: it is the same in whatever order the routes are met, and
  however often;
* `AllowedMethods.outcome_recordAll`: so a failure is known from the routes that were met.

A route has one method, so no index is met with two. The methods of one index would be listed in the
order in which they were met.
-/
import HttpRouting.Matching.Outcome
import Mathlib.Data.List.Sort
import Mathlib.Order.Bounds.Basic

namespace HttpRouting

/-- Where some index has a property, there is a least one. -/
lemma exists_isLeast {p : Nat → Prop} (h : ∃ i, p i) : ∃ i, IsLeast {j | p j} i := by
  classical
  exact ⟨Nat.find h, Nat.find_spec h, fun _ hj => Nat.find_min' h hj⟩

/-- The methods of a list with the first route of each are those that have a route. -/
lemma mem_methods_iff_of_isLeast {hits : Method → Nat → Prop} {es : List (Method × Nat)}
    (h : ∀ m i, (m, i) ∈ es ↔ IsLeast {j | hits m j} i) (m : Method) :
    m ∈ es.map (·.1) ↔ ∃ i, hits m i := by
  rw [List.mem_map]
  constructor
  · rintro ⟨⟨m', j⟩, hj, rfl⟩
    exact ⟨j, ((h m' j).1 hj).1⟩
  · intro hm
    obtain ⟨j, hj⟩ := exists_isLeast hm
    exact ⟨(m, j), (h m j).2 hj, rfl⟩

/-! ### Lists of allowed methods -/

/-- A list of allowed methods. `hits m i` tells that the route `i`, which has the method `m`, takes
the path. -/
structure Lists (hits : Method → Nat → Prop) (allowed : List (Method × Nat)) : Prop where
  increasing : allowed.Pairwise fun x y => x.2 < y.2
  mem_iff : ∀ m i, (m, i) ∈ allowed ↔ IsLeast {j | hits m j} i

namespace Lists

variable {hits : Method → Nat → Prop} {allowed allowed' : List (Method × Nat)}

/-- There is at most one list of the allowed methods. -/
lemma unique (h : Lists hits allowed) (h' : Lists hits allowed') : allowed = allowed' := by
  have : Std.Irrefl fun x y : Method × Nat => x.2 < y.2 := ⟨fun x => Nat.lt_irrefl x.2⟩
  have : Std.Antisymm fun x y : Method × Nat => x.2 < y.2 :=
    ⟨fun _ _ hxy hyx => absurd hyx (Nat.lt_asymm hxy)⟩
  exact h.increasing.eq_of_mem_iff h'.increasing fun x => by rw [h.mem_iff, h'.mem_iff]

/-- No method is listed twice. -/
lemma nodup_methods (h : Lists hits allowed) : (allowed.map (·.1)).Nodup := by
  rw [List.Nodup, List.pairwise_map]
  refine List.Pairwise.imp_of_mem (fun {x y} hx hy hlt he => ?_) h.increasing
  have hx' := (h.mem_iff x.1 x.2).1 hx
  have hy' := (h.mem_iff y.1 y.2).1 hy
  rw [← he] at hy'
  exact absurd (hx'.unique hy') (Nat.ne_of_lt hlt)

/-- Nothing is listed exactly if no route takes the path. -/
lemma eq_nil_iff (h : Lists hits allowed) : allowed = [] ↔ ∀ m i, ¬ hits m i := by
  rw [← List.map_eq_nil_iff (f := (·.1)), List.eq_nil_iff_forall_not_mem]
  exact forall_congr' fun m => by rw [mem_methods_iff_of_isLeast h.mem_iff, not_exists]

/-- The list depends on the routes that take the path only. -/
lemma congr {hits' : Method → Nat → Prop} (h : Lists hits allowed)
    (he : ∀ m i, hits m i ↔ hits' m i) : Lists hits' allowed := by
  obtain rfl : hits = hits' := funext fun m => funext fun i => propext (he m i)
  exact h

/-- A list with the first routes of methods is the one of all their routes. -/
lemma of_isLeast (h : Lists (fun m i => IsLeast {j | hits m j} i) allowed) : Lists hits allowed where
  increasing := h.increasing
  mem_iff m i := by
    rw [h.mem_iff]
    exact ⟨fun hi => hi.1, fun hi => ⟨hi, fun j hj => hi.2 hj.1⟩⟩

end Lists

/-! ### The accumulator -/

namespace AllowedMethods

/-- The accumulator holds each method of a route that takes the path once, with the first such
route. -/
structure Notes (a : AllowedMethods) (hits : Method → Nat → Prop) : Prop where
  nodup : (a.entries.map (·.1)).Nodup
  mem_iff : ∀ m i, (m, i) ∈ a.entries ↔ IsLeast {j | hits m j} i

lemma notes_empty : Notes {} fun _ _ => False where
  nodup := List.nodup_nil
  mem_iff := by simp [IsLeast]

/-- The entries after a note. A method that is there keeps the smaller index. -/
lemma mem_insert {method : Method} {index : Nat} {es : List (Method × Nat)} {m : Method} {i : Nat}
    (hes : (es.map (·.1)).Nodup) :
    (m, i) ∈ insert method index es ↔
      m ≠ method ∧ (m, i) ∈ es ∨
      m = method ∧ ((∃ j, (m, j) ∈ es ∧ i = min j index) ∨ m ∉ es.map (·.1) ∧ i = index) := by
  induction es with
  | nil => simp [insert]
  | cons e es ih =>
      obtain ⟨m', j⟩ := e
      rw [List.map_cons, List.nodup_cons] at hes
      have hm' : ∀ k, (m', k) ∉ es := fun k hk => hes.1 (List.mem_map.2 ⟨_, hk, rfl⟩)
      have ih := ih hes.2
      rw [insert]
      by_cases he : m' = method
      · subst he
        by_cases hm : m = m' <;> simp_all
      · by_cases hm : m = method
        · subst hm
          simp_all [Ne.symm he]
        · simp_all

/-- Taking note of a route. -/
lemma Notes.record {a : AllowedMethods} {hits : Method → Nat → Prop} (h : a.Notes hits)
    (method : Method) (index : Nat) :
    (a.record method index).Notes fun m i => hits m i ∨ m = method ∧ i = index where
  nodup := by
    rw [AllowedMethods.record, methods_insert]
    split
    · exact h.nodup
    · next hn =>
        rw [List.nodup_append]
        exact ⟨h.nodup, List.nodup_singleton _, fun x hx y hy => by
          rw [List.mem_singleton.1 hy]
          exact fun he => hn (he ▸ hx)⟩
  mem_iff m i := by
    rw [AllowedMethods.record, mem_insert h.nodup, mem_methods_iff_of_isLeast h.mem_iff, not_exists]
    by_cases hm : m = method
    · subst hm
      have hset : {j | hits m j ∨ m = m ∧ j = index} = {j | hits m j} ∪ {index} := by
        ext j
        simp [or_comm]
      rw [hset]
      simp only [ne_eq, not_true_eq_false, false_and, true_and, false_or, h.mem_iff]
      constructor
      · rintro (⟨j, hj, rfl⟩ | ⟨hnone, rfl⟩)
        · exact hj.union isLeast_singleton
        · exact ⟨.inr rfl, fun j hj =>
            hj.elim (fun hj => absurd hj (hnone j)) fun hj => Nat.le_of_eq hj.symm⟩
      · intro hi
        by_cases hex : ∃ j, hits m j
        · obtain ⟨j, hj⟩ := exists_isLeast hex
          exact .inl ⟨j, hj, hi.unique (hj.union isLeast_singleton)⟩
        · have hnone : ∀ j, ¬ hits m j := fun j hj => hex ⟨j, hj⟩
          exact .inr ⟨hnone, hi.1.elim (fun hj => absurd hj (hnone i)) id⟩
    · simp [hm, h.mem_iff]

/-- What is noted depends on the routes that take the path only. -/
lemma Notes.congr {a : AllowedMethods} {hits hits' : Method → Nat → Prop} (h : a.Notes hits)
    (he : ∀ m i, hits m i ↔ hits' m i) : a.Notes hits' := by
  obtain rfl : hits = hits' := funext fun m => funext fun i => propext (he m i)
  exact h

/-- Taking note of several routes in turn. -/
lemma Notes.recordAll {a : AllowedMethods} {hits : Method → Nat → Prop} (h : a.Notes hits)
    (records : List (Method × Nat)) :
    (a.recordAll records).Notes fun m i => hits m i ∨ (m, i) ∈ records := by
  induction records generalizing a hits with
  | nil => exact h.congr fun m i => by simp
  | cons e records ih =>
      refine (ih (h.record e.1 e.2)).congr fun m i => ?_
      rw [List.mem_cons, or_assoc, Prod.ext_iff]

/-- What is known after several records. -/
lemma notes_recordAll (records : List (Method × Nat)) :
    (recordAll {} records).Notes fun m i => (m, i) ∈ records :=
  (notes_empty.recordAll records).congr fun _ _ => by rw [false_or]

/-- What is known after going through elements that may stand for a route to take note of. -/
lemma notes_foldl {β : Type} {note : AllowedMethods → β → AllowedMethods}
    (route? : β → Option (Method × Nat))
    (hnote : ∀ a b, note a b = ((route? b).map fun e => a.record e.1 e.2).getD a) (bs : List β) :
    (bs.foldl note {}).Notes fun m i => ∃ b ∈ bs, route? b = some (m, i) := by
  have hfold : bs.foldl note {} = recordAll {} (bs.filterMap route?) := by
    rw [recordAll, List.foldl_filterMap]
    refine congrArg (fun f => bs.foldl f ({} : AllowedMethods)) (funext fun a => funext fun b => ?_)
    rw [hnote]
    cases route? b <;> rfl
  rw [hfold]
  exact (notes_recordAll _).congr fun m i => by rw [List.mem_filterMap]

/-- The list is in the order of the routes. -/
lemma pairwise_toList (a : AllowedMethods) : a.toList.Pairwise fun x y => x.2 ≤ y.2 := by
  have htrans : ∀ x y z : Method × Nat, decide (x.2 ≤ y.2) = true →
      decide (y.2 ≤ z.2) = true → decide (x.2 ≤ z.2) = true := fun x y z hxy hyz =>
    decide_eq_true (Nat.le_trans (of_decide_eq_true hxy) (of_decide_eq_true hyz))
  have hsorted := List.pairwise_mergeSort htrans
    (fun x y => by simpa using Nat.le_total x.2 y.2) a.entries
  exact hsorted.imp fun hxy => of_decide_eq_true hxy

/-- **The list in the end** holds each method once, with the first route that has it, in the order
of the routes. -/
theorem Notes.lists {a : AllowedMethods} {hits : Method → Nat → Prop} (h : a.Notes hits)
    (hmethod : ∀ {m m' i}, hits m i → hits m' i → m = m') : Lists hits a.toList where
  increasing := by
    have hperm : a.toList.Perm a.entries := List.mergeSort_perm _ _
    have hnodup : a.toList.Nodup := hperm.nodup_iff.2 (List.Nodup.of_map _ h.nodup)
    refine (a.pairwise_toList.and hnodup).imp_of_mem fun {x y} hx hy hxy => ?_
    refine Nat.lt_of_le_of_ne hxy.1 fun he => hxy.2 ?_
    have hx' := (h.mem_iff x.1 x.2).1 (hperm.mem_iff.1 hx)
    have hy' := (h.mem_iff y.1 y.2).1 (hperm.mem_iff.1 hy)
    refine Prod.ext (hmethod hx'.1 ?_) he
    rw [he]
    exact hy'.1
  mem_iff m i := by rw [toList, List.mem_mergeSort, h.mem_iff]

/-! ### The order of the records -/

variable {records records' : List (Method × Nat)}

/-- The list after several records. -/
lemma lists_recordAll (hmethod : ∀ x ∈ records, ∀ y ∈ records, x.2 = y.2 → x.1 = y.1) :
    Lists (fun m i => (m, i) ∈ records) (recordAll {} records).toList :=
  (notes_recordAll records).lists fun hi hi' => hmethod _ hi _ hi' rfl

/-- The list is the same in whatever order the records come, and however often. -/
lemma toList_recordAll_congr (hmethod : ∀ x ∈ records, ∀ y ∈ records, x.2 = y.2 → x.1 = y.1)
    (hsame : ∀ e, e ∈ records' ↔ e ∈ records) :
    (recordAll {} records').toList = (recordAll {} records).toList := by
  have hmethod' : ∀ x ∈ records', ∀ y ∈ records', x.2 = y.2 → x.1 = y.1 := fun x hx y hy =>
    hmethod x ((hsame x).1 hx) y ((hsame y).1 hy)
  exact (lists_recordAll hmethod').unique
    ((lists_recordAll hmethod).congr fun m i => (hsame (m, i)).symm)

/-- **A failure is known from the routes that were met.** If no index was met with two methods, it
lists each method that was met once and no other, with the least index met with it, in the order of
the indices. Neither the order of the records nor their repetition matters. -/
theorem outcome_recordAll (hmethod : ∀ x ∈ records, ∀ y ∈ records, x.2 = y.2 → x.1 = y.1) :
    ∃ allowed, (recordAll {} records).outcome = .failed allowed ∧
      (∀ m, (allowed.map (·.1)).count m = if m ∈ records.map (·.1) then 1 else 0) ∧
      (∀ m i, (m, i) ∈ allowed ↔ IsLeast {j | (m, j) ∈ records} i) ∧
      allowed.Pairwise (fun x y => x.2 < y.2) ∧
      ∀ records' : List (Method × Nat), (∀ e, e ∈ records' ↔ e ∈ records) →
        (recordAll {} records').outcome = .failed allowed := by
  have hlists := lists_recordAll hmethod
  refine ⟨_, rfl, fun m => ?_, hlists.mem_iff, hlists.increasing, fun records' hsame => ?_⟩
  · have hmet : m ∈ (recordAll {} records).toList.map (·.1) ↔ m ∈ records.map (·.1) := by
      rw [mem_methods_iff_of_isLeast hlists.mem_iff]
      simp
    rw [hlists.nodup_methods.count]
    simp only [hmet]
  · exact congrArg Outcome.failed (toList_recordAll_congr hmethod hsame)

/-- Four routes of two methods, not in their order. -/
def metRoutes : List (Method × Nat) :=
  [(⟨"PUT", isMethodToken_put⟩, 3), (⟨"GET", isMethodToken_get⟩, 1),
    (⟨"PUT", isMethodToken_put⟩, 2), (⟨"GET", isMethodToken_get⟩, 5)]

/-- In whatever order these are met, the least route of each method is listed. -/
theorem outcome_recordAll_metRoutes :
    (∀ x ∈ metRoutes, ∀ y ∈ metRoutes, x.2 = y.2 → x.1 = y.1) ∧
      ∀ records' : List (Method × Nat), (∀ e, e ∈ records' ↔ e ∈ metRoutes) →
        (recordAll {} records').outcome =
          .failed [(⟨"GET", isMethodToken_get⟩, 1), (⟨"PUT", isMethodToken_put⟩, 2)] := by
  have hmethod : ∀ x ∈ metRoutes, ∀ y ∈ metRoutes, x.2 = y.2 → x.1 = y.1 := by decide
  have hlist : (recordAll {} metRoutes).outcome =
      .failed [(⟨"GET", isMethodToken_get⟩, 1), (⟨"PUT", isMethodToken_put⟩, 2)] := by
    simp [metRoutes, recordAll, record, insert, outcome, toList, List.mergeSort]
  obtain ⟨allowed, houtcome, -, -, -, hsame⟩ := outcome_recordAll hmethod
  rw [hlist] at houtcome
  cases houtcome
  exact ⟨hmethod, hsame⟩

end AllowedMethods

end HttpRouting
