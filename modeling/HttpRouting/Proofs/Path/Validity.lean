/-
The paths that pass the check.

* `Path.HasKnownTypes`: a registry knows the types that a path names;
* `repeatsAfter_eq_nil_iff`: no name is repeated exactly if the names are distinct;
* `Path.validate_eq_ok_iff`: a path passes exactly if its attributes have distinct names and known
  types.
-/
import HttpRouting.Path.Validation
import Mathlib.Data.List.Nodup
import Mathlib.Tactic.Lemma

namespace HttpRouting.Path

/-- A registry knows the types that a path names. -/
def HasKnownTypes (registry : TypeRegistry) : Path → Prop
  | empty => True
  | literal _ next => next.HasKnownTypes registry
  | attr _ typeName next =>
    (∀ t ∈ typeName, (registry.find? t).isSome) ∧ next.HasKnownTypes registry
  | optional inner => inner.HasKnownTypes registry

/-- No name is repeated exactly if the names are distinct, and none was seen before. -/
lemma repeatsAfter_eq_nil_iff {seen repeated names : List String} :
    repeatsAfter seen repeated names = [] ↔
      repeated = [] ∧ names.Nodup ∧ ∀ name ∈ names, name ∉ seen := by
  induction names generalizing seen repeated with
  | nil => simp [repeatsAfter]
  | cons name names ih =>
      rw [repeatsAfter, List.forall_mem_cons, List.nodup_cons]
      by_cases hseen : name ∈ seen
      · -- the name is listed now, if it was not before
        have hne : (if repeated.contains name then repeated else repeated ++ [name]) ≠ [] := by
          split
          · next hc => exact List.ne_nil_of_mem (List.contains_iff_mem.1 hc)
          · simp
        rw [if_pos (List.contains_iff_mem.2 hseen), ih]
        exact ⟨fun h => absurd h.1 hne, fun h => absurd hseen h.2.2.1⟩
      · rw [if_neg (fun hc => hseen (List.contains_iff_mem.1 hc)), ih]
        simp only [List.mem_append, List.mem_singleton, not_or]
        constructor
        · rintro ⟨hrepeated, hnodup, hnames⟩
          exact ⟨hrepeated, ⟨fun hmem => (hnames name hmem).2 rfl, hnodup⟩, hseen,
            fun n hn => (hnames n hn).1⟩
        · rintro ⟨hrepeated, ⟨hmem, hnodup⟩, -, hnames⟩
          exact ⟨hrepeated, hnodup, fun n hn => ⟨hnames n hn, fun he => hmem (he ▸ hn)⟩⟩

lemma unknownType?_eq_none_iff {registry : TypeRegistry} {p : Path} :
    p.unknownType? registry = none ↔ p.HasKnownTypes registry := by
  induction p with
  | empty => exact ⟨fun _ => trivial, fun _ => rfl⟩
  | literal text next ih => exact ih
  | attr name typeName next ih =>
      rw [HasKnownTypes, ← ih]
      cases typeName with
      | none => simp [unknownType?]
      | some t => cases ht : registry.find? t <;> simp [unknownType?, ht]
  | optional inner ih => exact ih

/-- **A path passes the check** exactly if its attributes have distinct names and known types. -/
theorem validate_eq_ok_iff {registry : TypeRegistry} {p : Path} :
    p.validate registry = .ok () ↔ p.attributeNames.Nodup ∧ p.HasKnownTypes registry := by
  have hnames : p.repeatedNames.isEmpty = true ↔ p.attributeNames.Nodup := by
    rw [List.isEmpty_iff, repeatedNames, repeatsAfter_eq_nil_iff]
    simp
  rw [validate, ← hnames, ← unknownType?_eq_none_iff]
  split
  · next h => cases p.unknownType? registry <;> simp [h]
  · next h => simp [h]

end HttpRouting.Path
