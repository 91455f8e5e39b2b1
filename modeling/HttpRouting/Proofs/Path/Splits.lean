/-
The ways in which a path takes up the beginning of a text, where types are taken at their lengths.

* `TypeRegistry.StandsAlone`: the patterns of all types are ones on their own;
* `TypeRegistry.IsSelfContained`: they are ones without anchors;
* `Path.TypesStandAlone`: the patterns of the types of a path are ones on their own;
* `Path.splits`: how much a path takes, with the spans of its attributes;
* `Path.filter_splits_append`: the ways that end before the rest of a text do not depend on it;
* `Path.Derives.exists_mem_splits`: a path takes any text that it stands for as a whole.

The ways come in the order in which a regular expression would try them.
-/
import HttpRouting.Path.Derivation
import HttpRouting.Proofs.AttributeType.Lengths

namespace HttpRouting

/-- The patterns of all types of a registry are ones on their own. -/
def TypeRegistry.StandsAlone (r : TypeRegistry) : Prop :=
  ∀ t ∈ r.types, t.StandsAlone

instance (r : TypeRegistry) : Decidable r.StandsAlone :=
  inferInstanceAs (Decidable (∀ t ∈ r.types, t.StandsAlone))

/-- The patterns of all types of a registry are ones on their own, without anchors. -/
def TypeRegistry.IsSelfContained (r : TypeRegistry) : Prop :=
  ∀ t ∈ r.types, t.IsSelfContained

instance (r : TypeRegistry) : Decidable r.IsSelfContained :=
  inferInstanceAs (Decidable (∀ t ∈ r.types, t.IsSelfContained))

/-- A type that is found is one of the types. -/
lemma TypeRegistry.mem_of_find? {r : TypeRegistry} {name : String} {t : AttributeType}
    (h : r.find? name = some t) : t ∈ r.types :=
  List.mem_of_find?_eq_some h

/-- The type of an attribute is one of the types. -/
lemma TypeRegistry.typeOf_mem (r : TypeRegistry) (name : Option String) :
    r.typeOf name ∈ r.types := by
  rw [typeOf]
  cases h : r.resolve? name with
  | none => exact r.implicitType_mem
  | some t =>
      cases name with
      | none =>
          cases h
          exact r.implicitType_mem
      | some name => exact mem_of_find? h

lemma TypeRegistry.StandsAlone.typeOf {r : TypeRegistry} (h : r.StandsAlone)
    (name : Option String) : (r.typeOf name).StandsAlone :=
  h _ (r.typeOf_mem name)

lemma TypeRegistry.IsSelfContained.typeOf {r : TypeRegistry} (h : r.IsSelfContained)
    (name : Option String) : (r.typeOf name).IsSelfContained :=
  h _ (r.typeOf_mem name)

lemma TypeRegistry.IsSelfContained.standsAlone {r : TypeRegistry} (h : r.IsSelfContained) :
    r.StandsAlone :=
  fun t ht => (h t ht).standsAlone

/-- The positions where the value of an attribute begins and ends. -/
abbrev Span := Nat × Nat

namespace Path

/-- The patterns of the types of a path are ones on their own. -/
def TypesStandAlone (registry : TypeRegistry) : Path → Prop
  | empty => True
  | literal _ next => next.TypesStandAlone registry
  | attr _ typeName next =>
    (registry.typeOf typeName).StandsAlone ∧ next.TypesStandAlone registry
  | optional inner => inner.TypesStandAlone registry

lemma typesStandAlone {registry : TypeRegistry} (h : registry.StandsAlone) (p : Path) :
    p.TypesStandAlone registry := by
  induction p with
  | empty => trivial
  | literal text next ih => exact ih
  | attr name typeName next ih => exact ⟨h.typeOf typeName, ih⟩
  | optional inner ih => exact ih

/-- The ways in which a path takes up the beginning of a text that stands at a position: how many
characters it takes, and the spans of its attributes. -/
def splits (registry : TypeRegistry) : Path → Nat → List Char → List (Nat × List Span)
  | empty, _, _ => [(0, [])]
  | literal text next, i, cs =>
    if text.toList <+: cs then
      (next.splits registry (i + text.toList.length) (cs.drop text.toList.length)).map fun w =>
        (text.toList.length + w.1, w.2)
    else []
  | attr _ typeName next, i, cs =>
    ((registry.typeOf typeName).lengths cs).flatMap fun n =>
      (next.splits registry (i + n) (cs.drop n)).map fun w => (n + w.1, (i, i + n) :: w.2)
  | optional inner, i, cs => inner.splits registry i cs ++ [(0, [])]

variable {registry : TypeRegistry}

/-! ### The rest of a text -/

section Filter

variable {n l : Nat} (ws : List (Nat × List Span)) (f : List Span → List Span)

/-- Ways that go on after some characters, up to a bound. -/
lemma filter_map_of_le (hn : n ≤ l) :
    (ws.map fun w => (n + w.1, f w.2)).filter (·.1 ≤ l) =
      (ws.filter (·.1 ≤ l - n)).map fun w => (n + w.1, f w.2) := by
  rw [List.filter_map]
  congr 2
  funext w
  refine decide_eq_decide.2 ?_
  dsimp only
  omega

lemma filter_map_of_lt (hn : l < n) :
    (ws.map fun w => (n + w.1, f w.2)).filter (·.1 ≤ l) = [] := by
  refine List.filter_eq_nil_iff.2 fun w hw => ?_
  obtain ⟨v, -, rfl⟩ := List.mem_map.1 hw
  simp only [decide_eq_true_eq]
  omega

end Filter

/-- **The ways that end before the rest of a text do not depend on it.** -/
theorem filter_splits_append (h : registry.IsSelfContained) (p : Path) (i : Nat)
    (cs tail : List Char) :
    (p.splits registry i (cs ++ tail)).filter (·.1 ≤ cs.length) = p.splits registry i cs := by
  induction p generalizing i cs with
  | empty => simp [splits]
  | literal text next ih =>
      rw [splits, splits]
      by_cases hle : text.toList.length ≤ cs.length
      · have hiff : text.toList <+: cs ++ tail ↔ text.toList <+: cs :=
          ⟨fun hp => List.prefix_of_prefix_length_le hp (List.prefix_append cs tail) hle,
            fun hp => hp.trans (List.prefix_append cs tail)⟩
        simp only [hiff]
        split
        · rw [filter_map_of_le _ (fun s => s) hle, List.drop_append_of_le_length hle]
          have hnext := ih (i + text.toList.length) (cs.drop text.toList.length)
          rw [List.length_drop] at hnext
          rw [hnext]
        · rfl
      · have hno : ¬ text.toList <+: cs := fun hp => hle hp.length_le
        rw [if_neg hno]
        split
        · exact filter_map_of_lt _ (fun s => s) (by omega)
        · rfl
  | attr name typeName next ih =>
      rw [splits, splits, AttributeType.lengths,
        ← Regex.filter_lengths_append (h.typeOf typeName).isAnchorFree cs tail]
      -- a value that ends before the rest of the text is kept, with what follows it up to there
      refine filter_flatMap_eq (fun n _ hn => ?_) fun n _ hn => ?_
      · have hn : n ≤ cs.length := of_decide_eq_true hn
        rw [filter_map_of_le _ _ hn, List.drop_append_of_le_length hn]
        have hnext := ih (i + n) (cs.drop n)
        rw [List.length_drop] at hnext
        rw [hnext]
      · exact filter_map_of_lt _ _ (Nat.lt_of_not_le (of_decide_eq_false hn))
  | optional inner ih =>
      rw [splits, splits, List.filter_append, ih]
      simp

/-- A path takes part of the text. -/
lemma fst_le_of_mem_splits (h : registry.IsSelfContained) {p : Path} {i : Nat} {cs : List Char}
    {w : Nat × List Span} (hw : w ∈ p.splits registry i cs) : w.1 ≤ cs.length := by
  rw [← filter_splits_append h p i cs []] at hw
  exact of_decide_eq_true (List.mem_filter.1 hw).2

/-- The values of attributes are parts of the text. -/
lemma snd_le_of_mem_splits (h : registry.IsSelfContained) {p : Path} {i : Nat} {cs : List Char}
    {w : Nat × List Span} (hw : w ∈ p.splits registry i cs) : ∀ s ∈ w.2, s.2 ≤ i + cs.length := by
  induction p generalizing i cs w with
  | empty =>
      rw [List.mem_singleton.1 hw]
      exact fun s hs => nomatch hs
  | literal text next ih =>
      rw [splits] at hw
      split at hw
      · next hp =>
          obtain ⟨v, hv, rfl⟩ := List.mem_map.1 hw
          have hle : text.toList.length ≤ cs.length := hp.length_le
          have hnext := ih hv
          rw [List.length_drop] at hnext
          exact fun s hs => Nat.le_trans (hnext s hs) (by omega)
      · exact nomatch hw
  | attr name typeName next ih =>
      obtain ⟨n, hn, hw⟩ := List.mem_flatMap.1 hw
      obtain ⟨v, hv, rfl⟩ := List.mem_map.1 hw
      have hle := (h.typeOf typeName).le_length hn
      have hnext := ih hv
      rw [List.length_drop] at hnext
      intro s hs
      rcases List.mem_cons.1 hs with rfl | hs
      · exact Nat.add_le_add_left hle i
      · exact Nat.le_trans (hnext s hs) (by omega)
  | optional inner ih =>
      rcases List.mem_append.1 hw with hw | hw
      · exact ih hw
      · rw [List.mem_singleton.1 hw]
        exact fun s hs => nomatch hs

/-! ### Whole texts -/

/-- **A path takes any text that it stands for as a whole.** -/
theorem Derives.exists_mem_splits (h : registry.IsSelfContained) {p : Path} {cs : List Char}
    {c : List (String × String)} (hd : p.Derives registry cs c) (i : Nat) :
    ∃ s, (cs.length, s) ∈ p.splits registry i cs := by
  induction hd generalizing i with
  | empty => exact ⟨[], List.mem_singleton_self _⟩
  | @literal text next cs _ rest ih =>
      obtain ⟨s, hs⟩ := ih (i + text.toList.length)
      rw [splits, if_pos (List.prefix_append _ _), List.drop_left, List.length_append]
      exact ⟨s, List.mem_map.2 ⟨_, hs, rfl⟩⟩
  | @attr name typeName next value cs _ accepts rest ih =>
      obtain ⟨s, hs⟩ := ih (i + value.length)
      have hn : value.length ∈ (registry.typeOf typeName).lengths (value ++ cs) := by
        rw [← (h.typeOf typeName).accepts_take_iff (by simp), List.take_left]
        exact accepts
      refine ⟨(i, i + value.length) :: s, List.mem_flatMap.2 ⟨value.length, hn, ?_⟩⟩
      rw [List.drop_left, List.length_append]
      exact List.mem_map.2 ⟨_, hs, rfl⟩
  | taken rest ih =>
      obtain ⟨s, hs⟩ := ih i
      exact ⟨s, List.mem_append_left _ hs⟩
  | skipped => exact ⟨[], List.mem_append_right _ (List.mem_singleton_self _)⟩

end Path

end HttpRouting
