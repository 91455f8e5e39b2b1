/-
Lists: first results, and the lists that elements make.

* `findSome?_congr`, `findSome?_flatMap`, `findSome?_ite`, `findSome?_filter`, `findSome?_bind`: the
  first result that the elements of a list give;
* `flatMap_filter`, `filter_flatMap_eq`: the lists that the elements make which a filter keeps;
* `span_append`: the longest beginning with a property, where two lists meet;
* `prefix_of_mapM`: the results of a list begin those of a longer one;
* `mapM_congr`, `isSome_mapM`: the results for the elements make those for the list;
* `forall₂_of_mapM`, `map_eq_map_of_forall₂`: lists whose elements go together one by one;
* `lookup_cons_eq`, `lookup_eq_none`, `lookup_eq_some_iff_mem`: values looked up by their names;
* `eraseDups_concat`, `nodup_eraseDups`: the first occurrences of the elements;
* `filter_eq_singleton`: the one element with a property;
* `eq_of_mem_flatMap`: the one element that makes another.
-/
import Mathlib.Data.List.Forall2
import Mathlib.Data.List.Induction
import Mathlib.Data.List.Nodup
import Mathlib.Tactic.Lemma

namespace HttpRouting

/-! ### First results -/

/-- Functions that agree on the elements of a list find the same first result. -/
lemma findSome?_congr {α β : Type} {f g : α → Option β} {as : List α}
    (h : ∀ a ∈ as, f a = g a) : as.findSome? f = as.findSome? g := by
  induction as with
  | nil => rfl
  | cons a as ih =>
      rw [List.findSome?_cons, List.findSome?_cons, h a List.mem_cons_self,
        ih fun b hb => h b (List.mem_cons_of_mem a hb)]

/-- The first result for the lists of several elements. -/
lemma findSome?_flatMap {α β γ : Type} (as : List α) (g : α → List β) (f : β → Option γ) :
    (as.flatMap g).findSome? f = as.findSome? fun a => (g a).findSome? f := by
  induction as with
  | nil => rfl
  | cons a as ih =>
      rw [List.flatMap_cons, List.findSome?_append, ih, List.findSome?_cons]
      cases (g a).findSome? f <;> rfl

/-- The first result where a condition decides. -/
lemma findSome?_ite {α β : Type} (p : α → Bool) (f : α → β) (as : List α) :
    (as.findSome? fun a => if p a then some (f a) else none) = (as.find? p).map f := by
  induction as with
  | nil => rfl
  | cons a as ih =>
      rw [List.findSome?_cons, List.find?_cons, ih]
      cases p a <;> rfl

/-- What gives no result can be left out. -/
lemma findSome?_filter {α β : Type} {p : α → Bool} {f : α → Option β} {as : List α}
    (h : ∀ a ∈ as, p a = false → f a = none) : (as.filter p).findSome? f = as.findSome? f := by
  induction as with
  | nil => rfl
  | cons a as ih =>
      have ih := ih fun b hb => h b (List.mem_cons_of_mem a hb)
      cases hp : p a with
      | true => rw [List.filter_cons_of_pos hp, List.findSome?_cons, List.findSome?_cons, ih]
      | false =>
          rw [List.filter_cons_of_neg (by simp [hp]), List.findSome?_cons,
            h a List.mem_cons_self hp, ih]

/-- Reading the first result, where every result can be read. -/
lemma findSome?_bind {α β γ : Type} {f : α → Option β} {g : β → Option γ} {e : α → Option γ}
    {as : List α} (h : ∀ a ∈ as, e a = (f a).bind g ∧ (e a = none → f a = none)) :
    (as.findSome? f).bind g = as.findSome? e := by
  induction as with
  | nil => rfl
  | cons a as ih =>
      obtain ⟨he, hnone⟩ := h a List.mem_cons_self
      have ih := ih fun b hb => h b (List.mem_cons_of_mem a hb)
      rw [List.findSome?_cons, List.findSome?_cons]
      cases hea : e a with
      | none =>
          rw [hnone hea]
          exact ih
      | some c =>
          rw [hea] at he
          cases hf : f a with
          | none => exact nomatch hf ▸ he
          | some b => exact (hf ▸ he).symm

/-! ### Filters -/

/-- The lists of the elements that a filter keeps. -/
lemma flatMap_filter {α β : Type} (p : α → Bool) (f : α → List β) (as : List α) :
    (as.filter p).flatMap f = as.flatMap fun a => if p a then f a else [] := by
  induction as with
  | nil => rfl
  | cons a as ih =>
      rw [List.flatMap_cons, ← ih]
      cases hp : p a with
      | true =>
          rw [List.filter_cons_of_pos hp, List.flatMap_cons]
          rfl
      | false =>
          rw [List.filter_cons_of_neg (by simp [hp])]
          rfl

/-- Elements that a filter drops make lists that another one drops. -/
lemma filter_flatMap_eq {α β : Type} {p : α → Bool} {q : β → Bool} {f g : α → List β} {as : List α}
    (hkeep : ∀ a ∈ as, p a = true → (f a).filter q = g a)
    (hdrop : ∀ a ∈ as, p a = false → (f a).filter q = []) :
    (as.flatMap f).filter q = (as.filter p).flatMap g := by
  induction as with
  | nil => rfl
  | cons a as ih =>
      have ih := ih (fun b hb => hkeep b (List.mem_cons_of_mem a hb))
        fun b hb => hdrop b (List.mem_cons_of_mem a hb)
      rw [List.flatMap_cons, List.filter_append, ih]
      cases hp : p a with
      | true =>
          rw [hkeep a List.mem_cons_self hp, List.filter_cons_of_pos hp, List.flatMap_cons]
      | false =>
          rw [hdrop a List.mem_cons_self hp, List.filter_cons_of_neg (by simp [hp]),
            List.nil_append]

/-! ### Beginnings -/

/-- The longest beginning with a property ends where one list has it and the next does not. -/
lemma span_append {α : Type} {p : α → Bool} {as bs : List α} (has : ∀ a ∈ as, p a = true)
    (hbs : ∀ b, bs.head? = some b → p b = false) :
    (as ++ bs).takeWhile p = as ∧ (as ++ bs).dropWhile p = bs := by
  rw [List.takeWhile_append_of_pos has, List.dropWhile_append_of_pos has]
  cases bs with
  | nil => simp
  | cons b bs =>
      have hb : p b = false := hbs b rfl
      simp [hb]

/-- The results of a list begin those of a longer one. -/
lemma prefix_of_mapM {α β : Type} {f : α → Option β} {as as' : List α} {bs bs' : List β}
    (hp : as <+: as') (h : as.mapM f = some bs) (h' : as'.mapM f = some bs') : bs <+: bs' := by
  obtain ⟨others, rfl⟩ := hp
  rw [List.mapM_append, h, Option.bind_eq_bind, Option.bind_some] at h'
  obtain ⟨cs, -, he⟩ := Option.bind_eq_some_iff.1 h'
  obtain rfl := Option.some.inj he
  exact List.prefix_append bs cs

/-- Functions that agree on the elements of a list have the same results for it. -/
lemma mapM_congr {α β : Type} {f g : α → Option β} {as : List α} (h : ∀ a ∈ as, f a = g a) :
    as.mapM f = as.mapM g := by
  induction as with
  | nil => rfl
  | cons a as ih =>
      rw [List.mapM_cons, List.mapM_cons, h a List.mem_cons_self,
        ih fun b hb => h b (List.mem_cons_of_mem a hb)]

/-- There is a result for a list if there is one for each element. -/
lemma isSome_mapM {α β : Type} {f : α → Option β} {as : List α} :
    (as.mapM f).isSome = true ↔ ∀ a ∈ as, (f a).isSome = true := by
  induction as with
  | nil => simp
  | cons a as ih =>
      rw [List.mapM_cons, List.forall_mem_cons, ← ih]
      cases f a <;> cases as.mapM f <;> simp

/-! ### Pairs of lists -/

/-- The results of all elements go together with the elements. -/
lemma forall₂_of_mapM {α β : Type} {f : α → Option β} {as : List α} {bs : List β}
    (h : as.mapM f = some bs) : List.Forall₂ (fun a b => f a = some b) as bs := by
  induction as generalizing bs with
  | nil =>
      cases h
      exact .nil
  | cons a as ih =>
      rw [List.mapM_cons] at h
      obtain ⟨b, hb, h⟩ := Option.bind_eq_some_iff.1 h
      obtain ⟨bs, hbs, h⟩ := Option.bind_eq_some_iff.1 h
      cases h
      exact .cons hb (ih hbs)

/-- Elements that go together have the same images. -/
lemma map_eq_map_of_forall₂ {α β γ : Type} {f : α → γ} {g : β → γ} {as : List α} {bs : List β}
    (h : List.Forall₂ (fun a b => f a = g b) as bs) : as.map f = bs.map g := by
  rwa [← List.forall₂_eq_eq_eq, List.forall₂_map_left_iff, List.forall₂_map_right_iff]

/-! ### Values with names -/

section Lookup

variable {β : Type} {as : List (String × β)} {name : String}

/-- The first value with the name counts. -/
lemma lookup_cons_eq (n : String) (b : β) (as : List (String × β)) (name : String) :
    ((n, b) :: as).lookup name = if name = n then some b else as.lookup name := by
  rw [List.lookup_cons]
  by_cases h : name = n
  · rw [if_pos h, beq_iff_eq.2 h]
  · rw [if_neg h, beq_false_of_ne h]

/-- A name that does not occur has no value. -/
lemma lookup_eq_none : as.lookup name = none ↔ name ∉ as.map (·.1) := by
  induction as with
  | nil => simp
  | cons a as ih =>
      rw [lookup_cons_eq, List.map_cons, List.mem_cons, not_or, ← ih]
      by_cases h : name = a.1 <;> simp [h]

/-- Where names are distinct, every value is found. -/
lemma lookup_eq_some_iff_mem (h : (as.map (·.1)).Nodup) {b : β} :
    as.lookup name = some b ↔ (name, b) ∈ as := by
  induction as with
  | nil => simp
  | cons a as ih =>
      obtain ⟨n, c⟩ := a
      obtain ⟨hn, has⟩ := List.nodup_cons.1 h
      rw [lookup_cons_eq, List.mem_cons, Prod.mk.injEq]
      by_cases hname : name = n
      · subst hname
        have hnot : (name, b) ∉ as := fun hmem => hn (List.mem_map.2 ⟨_, hmem, rfl⟩)
        simp [hnot, eq_comm]
      · simp [hname, ih has]

end Lookup

/-! ### Elements that come once -/

section Once

variable {α : Type}

/-- A further element is kept if it is new. -/
lemma eraseDups_concat [DecidableEq α] (as : List α) (a : α) :
    (as ++ [a]).eraseDups = if a ∈ as then as.eraseDups else as.eraseDups ++ [a] := by
  rw [List.eraseDups_append]
  by_cases h : a ∈ as <;> simp [List.removeAll, h, List.eraseDups_cons]

/-- No element is kept twice. -/
lemma nodup_eraseDups [DecidableEq α] (as : List α) : as.eraseDups.Nodup := by
  induction as using List.reverseRecOn with
  | nil => exact List.nodup_nil
  | append_singleton as a ih =>
      rw [eraseDups_concat]
      split
      · exact ih
      · next h =>
          rw [← List.concat_eq_append]
          exact ih.concat fun ha => h (List.mem_eraseDups.1 ha)

/-- A property of one element only. -/
lemma filter_eq_singleton {p : α → Bool} {as : List α} {a : α} (hnodup : as.Nodup) (ha : a ∈ as)
    (hp : ∀ b ∈ as, p b = true ↔ b = a) : as.filter p = [a] := by
  refine List.perm_singleton.1
    ((List.perm_ext_iff_of_nodup (hnodup.filter p) (List.nodup_singleton a)).2 fun b => ?_)
  rw [List.mem_filter, List.mem_singleton]
  constructor
  · rintro ⟨hb, hpb⟩
    exact (hp b hb).1 hpb
  · rintro rfl
    exact ⟨ha, (hp b ha).2 rfl⟩

/-- An element that is made once is made by one element only. -/
lemma eq_of_mem_flatMap {β : Type} {f : α → List β} {as : List α} (h : (as.flatMap f).Nodup)
    {i j : Nat} {a a' : α} {b : β} (hi : as[i]? = some a) (hj : as[j]? = some a') (ha : b ∈ f a)
    (ha' : b ∈ f a') : i = j := by
  have hdisjoint := List.pairwise_iff_getElem.1 (List.nodup_flatMap.1 h).2
  obtain ⟨hlt, rfl⟩ := List.getElem?_eq_some_iff.1 hi
  obtain ⟨hlt', rfl⟩ := List.getElem?_eq_some_iff.1 hj
  rcases Nat.lt_trichotomy i j with hij | hij | hij
  · exact absurd ha' (hdisjoint i j hlt hlt' hij ha)
  · exact hij
  · exact absurd ha (hdisjoint j i hlt' hlt hij ha')

end Once

end HttpRouting
