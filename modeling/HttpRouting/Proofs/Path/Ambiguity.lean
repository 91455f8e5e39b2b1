/-
What the check of a path reports.

* `IsSecondAt`: a name occurs for the second time at a position;
* `ListsRepeats`: a list holds the names that occur more than once, in the order of these positions;
* `ListsRepeats.concat_new`, `ListsRepeats.concat_repeat`: one more name;
* `listsRepeats_repeatsAfter`: the names of a whole pass;
* `Attribute.HasUnknownType`: an attribute names a type that a registry lacks;
* `Path.unknownType?_eq_findSome?`: the pass over a path finds the first such attribute;
* `Path.validate_reports`: the check reports all repeated names, or else the first unknown type, or
  else nothing.
-/
import HttpRouting.Proofs.Path.Validity
import Mathlib.Data.List.Induction

namespace HttpRouting

/-! ### Repeated names -/

/-- A name occurs for the second time at a position. -/
def IsSecondAt (names : List String) (name : String) (i : Nat) : Prop :=
  names[i]? = some name ∧ (names.take i).count name = 1

section IsSecondAt

variable {names : List String} {name : String} {i j : Nat}

/-- Later names do not matter. -/
lemma IsSecondAt.append (h : IsSecondAt names name i) (others : List String) :
    IsSecondAt (names ++ others) name i := by
  obtain ⟨hat, hcount⟩ := h
  have hlt : i < names.length := (List.getElem?_eq_some_iff.1 hat).1
  refine ⟨?_, ?_⟩
  · rw [List.getElem?_append_left hlt, hat]
  · rw [List.take_append_of_le_length (Nat.le_of_lt hlt), hcount]

lemma isSecondAt_concat (h : names.count name = 1) :
    IsSecondAt (names ++ [name]) name names.length := by
  simp [IsSecondAt, h]

/-- At a later position a name that occurs a second time has been there twice. -/
lemma IsSecondAt.not_lt (hi : IsSecondAt names name i) (hj : IsSecondAt names name j) :
    ¬ i < j := by
  intro hlt
  have hle : (names.take (i + 1)).count name ≤ (names.take j).count name :=
    (List.take_prefix_take_left hlt).sublist.count_le name
  rw [List.take_add_one, hi.1, List.count_append, hi.2, hj.2] at hle
  simp at hle

/-- With one more name, a name repeats if it did before, or if it is that one and was there once. -/
lemma two_le_count_concat {last : String} :
    2 ≤ (names ++ [last]).count name ↔
      2 ≤ names.count name ∨ name = last ∧ names.count name = 1 := by
  rw [List.count_append, List.count_singleton]
  by_cases he : name = last
  · subst he
    simp only [beq_self_eq_true, if_true, true_and]
    omega
  · simp [he, Ne.symm he]

/-- A name that occurs more than once has a second occurrence. -/
lemma exists_isSecondAt (h : 2 ≤ names.count name) : ∃ i, IsSecondAt names name i := by
  induction names using List.reverseRecOn with
  | nil => simp at h
  | append_singleton names last ih =>
      rcases two_le_count_concat.1 h with hbefore | ⟨rfl, hone⟩
      · obtain ⟨i, hi⟩ := ih hbefore
        exact ⟨i, hi.append [last]⟩
      · exact ⟨names.length, isSecondAt_concat hone⟩

end IsSecondAt

/-- A list holds the names that occur more than once, in the order of their second occurrences. -/
structure ListsRepeats (names repeats : List String) : Prop where
  mem_iff : ∀ name, name ∈ repeats ↔ 2 ≤ names.count name
  ordered : repeats.Pairwise fun a b =>
    ∃ i j, IsSecondAt names a i ∧ IsSecondAt names b j ∧ i < j

section ListsRepeats

variable {names repeats : List String} {name : String}

lemma listsRepeats_nil : ListsRepeats [] [] where
  mem_iff := by simp
  ordered := .nil

/-- Each name is listed once. -/
lemma ListsRepeats.nodup (h : ListsRepeats names repeats) : repeats.Nodup := by
  refine h.ordered.imp ?_
  rintro a b ⟨i, j, hi, hj, hlt⟩ rfl
  exact hi.not_lt hj hlt

/-- Nothing is listed exactly if no name occurs more than once. -/
lemma ListsRepeats.eq_nil_iff (h : ListsRepeats names repeats) :
    repeats = [] ↔ ∀ name, names.count name ≤ 1 := by
  rw [List.eq_nil_iff_forall_not_mem]
  refine forall_congr' fun name => ?_
  rw [h.mem_iff]
  omega

/-- The order of second occurrences is that among more names. -/
lemma ListsRepeats.ordered_append (h : ListsRepeats names repeats) (others : List String) :
    repeats.Pairwise fun a b =>
      ∃ i j, IsSecondAt (names ++ others) a i ∧ IsSecondAt (names ++ others) b j ∧ i < j := by
  refine h.ordered.imp ?_
  rintro a b ⟨i, j, hi, hj, hlt⟩
  exact ⟨i, j, hi.append others, hj.append others, hlt⟩

/-- A name that did not occur before repeats nothing. -/
lemma ListsRepeats.concat_new (h : ListsRepeats names repeats) (hname : name ∉ names) :
    ListsRepeats (names ++ [name]) repeats where
  mem_iff n := by
    have hzero : names.count name = 0 := List.count_eq_zero.2 hname
    rw [h.mem_iff, two_le_count_concat]
    refine ⟨.inl, fun hn => hn.resolve_right ?_⟩
    rintro ⟨rfl, hone⟩
    omega
  ordered := h.ordered_append [name]

/-- A name that occurred before is listed from its second occurrence on. -/
lemma ListsRepeats.concat_repeat (h : ListsRepeats names repeats) (hname : name ∈ names) :
    ListsRepeats (names ++ [name]) (if name ∈ repeats then repeats else repeats ++ [name]) := by
  split
  · next hlisted =>
      have htwice : 2 ≤ names.count name := (h.mem_iff name).1 hlisted
      refine ⟨fun n => ?_, h.ordered_append [name]⟩
      rw [h.mem_iff, two_le_count_concat]
      exact ⟨.inl, fun hn => hn.elim id fun ⟨he, _⟩ => he ▸ htwice⟩
  · next hlisted =>
      have hone : names.count name = 1 := by
        have hpos : 0 < names.count name := List.count_pos_iff.2 hname
        have hnot := mt (h.mem_iff name).2 hlisted
        omega
      refine ⟨fun n => ?_, ?_⟩
      · rw [List.mem_append, List.mem_singleton, h.mem_iff, two_le_count_concat]
        exact or_congr_right ⟨fun he => ⟨he, he ▸ hone⟩, And.left⟩
      · refine List.pairwise_append.2
          ⟨h.ordered_append [name], List.pairwise_singleton _ _, fun a ha b hb => ?_⟩
        -- what is listed already occurred a second time before the end
        obtain rfl := List.mem_singleton.1 hb
        obtain ⟨i, hi⟩ := exists_isSecondAt ((h.mem_iff a).1 ha)
        have hlt : i < names.length := (List.getElem?_eq_some_iff.1 hi.1).1
        exact ⟨i, names.length, hi.append [b], isSecondAt_concat hone, hlt⟩

/-- **A pass over names lists those that occur more than once**, if it did so before with the names
`done` and has seen just these. -/
theorem listsRepeats_repeatsAfter {done seen : List String} (h : ListsRepeats done repeats)
    (hseen : ∀ n, n ∈ seen ↔ n ∈ done) (names : List String) :
    ListsRepeats (done ++ names) (Path.repeatsAfter seen repeats names) := by
  induction names generalizing done seen repeats with
  | nil =>
      rw [List.append_nil]
      exact h
  | cons name names ih =>
      rw [Path.repeatsAfter, List.append_cons]
      simp only [List.contains_iff_mem]
      by_cases hname : name ∈ done
      · rw [if_pos ((hseen name).2 hname)]
        refine ih (h.concat_repeat hname) fun n => ?_
        rw [hseen, List.mem_append, List.mem_singleton]
        exact ⟨.inl, fun hn => hn.elim id fun he => he ▸ hname⟩
      · rw [if_neg (mt (hseen name).1 hname)]
        refine ih (h.concat_new hname) fun n => ?_
        rw [List.mem_append, List.mem_append, hseen]

end ListsRepeats

/-! ### Unknown types -/

/-- An attribute names a type that a registry lacks. -/
def Attribute.HasUnknownType (registry : TypeRegistry) (a : Attribute) : Prop :=
  ∃ typeName, a.typeName = some typeName ∧ ∀ type ∈ registry.types, type.name ≠ typeName

/-- The name of an attribute and the type that it names, if a registry lacks that. -/
def Attribute.unknownType? (registry : TypeRegistry) (a : Attribute) : Option (String × String) :=
  match a.typeName with
  | none => none
  | some typeName => if (registry.find? typeName).isNone then some (a.name, typeName) else none

section UnknownType

variable {registry : TypeRegistry} {a : Attribute} {name typeName : String}

lemma TypeRegistry.isNone_find?_iff :
    (registry.find? typeName).isNone ↔ ∀ type ∈ registry.types, type.name ≠ typeName := by
  simp [find?]

lemma Attribute.unknownType?_eq_some_iff :
    a.unknownType? registry = some (name, typeName) ↔
      a.HasUnknownType registry ∧ a.name = name ∧ a.typeName = some typeName := by
  rw [unknownType?, HasUnknownType]
  cases a.typeName with
  | none => simp
  | some t =>
      simp only [TypeRegistry.isNone_find?_iff, Option.ite_none_right_eq_some, Option.some.injEq,
        Prod.mk.injEq, exists_eq_left']

lemma Attribute.unknownType?_eq_none_iff :
    a.unknownType? registry = none ↔ ¬ a.HasUnknownType registry := by
  rw [unknownType?, HasUnknownType]
  cases a.typeName with
  | none => simp
  | some t =>
      simp only [TypeRegistry.isNone_find?_iff, ite_eq_right_iff, reduceCtorEq, imp_false,
        Option.some.injEq, exists_eq_left']

end UnknownType

namespace Path

/-- **The pass over a path finds the first attribute with an unknown type.** -/
theorem unknownType?_eq_findSome? (registry : TypeRegistry) (p : Path) (required : Bool) :
    p.unknownType? registry = (p.attributesAs required).findSome? (·.unknownType? registry) := by
  induction p generalizing required with
  | empty => rfl
  | literal text next ih => exact ih required
  | attr name typeName next ih =>
      rw [attributesAs, List.findSome?_cons, Attribute.unknownType?, ← ih required]
      cases typeName with
      | none => rfl
      | some t =>
          rw [unknownType?]
          dsimp only
          split <;> rfl
  | optional inner ih => exact ih false

variable {registry : TypeRegistry} {p : Path}

lemma unknownType?_eq_none_iff_attributes :
    p.unknownType? registry = none ↔ ∀ a ∈ p.attributes, ¬ a.HasUnknownType registry := by
  rw [unknownType?_eq_findSome? registry p true, List.findSome?_eq_none_iff]
  exact forall₂_congr fun a _ => Attribute.unknownType?_eq_none_iff

lemma exists_unknownType?_iff :
    (∃ name typeName, p.unknownType? registry = some (name, typeName)) ↔
      ∃ a ∈ p.attributes, a.HasUnknownType registry := by
  rw [← not_iff_not]
  simp only [not_exists, not_and]
  rw [← unknownType?_eq_none_iff_attributes, Option.eq_none_iff_forall_ne_some, Prod.forall]

/-! ### The check -/

/-- The repeated names of a path are those of its attributes. -/
lemma listsRepeats_repeatedNames (p : Path) :
    ListsRepeats (p.attributes.map (·.name)) p.repeatedNames := by
  rw [attributes, map_name_attributesAs]
  exact listsRepeats_repeatsAfter listsRepeats_nil (fun _ => Iff.rfl) p.attributeNames

/-- The check is about repeated names first. -/
lemma validate_eq_ambiguous_iff {names : List String} :
    p.validate registry = .error (.ambiguousAttributes names) ↔
      p.repeatedNames ≠ [] ∧ p.repeatedNames = names := by
  rw [validate]
  cases hrepeated : p.repeatedNames with
  | nil => cases p.unknownType? registry <;> simp
  | cons first others => simp

lemma validate_eq_unknownType_iff {name typeName : String} :
    p.validate registry = .error (.unknownType name typeName) ↔
      p.repeatedNames = [] ∧ p.unknownType? registry = some (name, typeName) := by
  rw [validate]
  cases hrepeated : p.repeatedNames with
  | nil => cases p.unknownType? registry <;> simp [Prod.ext_iff]
  | cons first others => simp

/-- **The check reports exactly what is wrong with a path.** It reports repeated names if there are
any, and then just these, each once, in the order of their second occurrences. Else it reports an
unknown type if there is one, namely that of the first attribute with one. Else the path passes. -/
theorem validate_reports (registry : TypeRegistry) (p : Path) :
    let names := p.attributes.map (·.name)
    ((∃ repeats, p.validate registry = .error (.ambiguousAttributes repeats)) ↔
        ∃ name, 2 ≤ names.count name) ∧
      (∀ repeats, p.validate registry = .error (.ambiguousAttributes repeats) →
        (∀ name, name ∈ repeats ↔ 2 ≤ names.count name) ∧ repeats.Nodup ∧
          repeats.Pairwise fun a b =>
            ∃ i j, IsSecondAt names a i ∧ IsSecondAt names b j ∧ i < j) ∧
      ((∃ name typeName, p.validate registry = .error (.unknownType name typeName)) ↔
        (∀ name, names.count name ≤ 1) ∧ ∃ a ∈ p.attributes, a.HasUnknownType registry) ∧
      (∀ name typeName, p.validate registry = .error (.unknownType name typeName) →
        ∃ before a after, p.attributes = before ++ a :: after ∧
          (∀ b ∈ before, ¬ b.HasUnknownType registry) ∧ a.HasUnknownType registry ∧
          a.name = name ∧ a.typeName = some typeName) ∧
      (p.validate registry = .ok () ↔
        (∀ name, names.count name ≤ 1) ∧ ∀ a ∈ p.attributes, ¬ a.HasUnknownType registry) := by
  intro names
  have hlists : ListsRepeats names p.repeatedNames := p.listsRepeats_repeatedNames
  refine ⟨?_, fun repeats h => ?_, ?_, fun name typeName h => ?_, ?_⟩
  · simp only [validate_eq_ambiguous_iff, exists_and_left, exists_eq', and_true, ne_eq,
      hlists.eq_nil_iff, not_forall, Nat.not_le, Nat.lt_iff_add_one_le]
  · obtain ⟨-, rfl⟩ := validate_eq_ambiguous_iff.1 h
    exact ⟨hlists.mem_iff, hlists.nodup, hlists.ordered⟩
  · simp only [validate_eq_unknownType_iff, exists_and_left, hlists.eq_nil_iff,
      exists_unknownType?_iff, names]
  · obtain ⟨-, hfirst⟩ := validate_eq_unknownType_iff.1 h
    rw [unknownType?_eq_findSome? registry p true] at hfirst
    obtain ⟨before, a, after, hsplit, ha, hbefore⟩ := List.findSome?_eq_some_iff.1 hfirst
    exact ⟨before, a, after, hsplit,
      fun b hb => Attribute.unknownType?_eq_none_iff.1 (hbefore b hb),
      Attribute.unknownType?_eq_some_iff.1 ha⟩
  · rw [← hlists.eq_nil_iff, ← unknownType?_eq_none_iff_attributes, validate]
    cases p.repeatedNames <;> cases p.unknownType? registry <;> simp

/-- A name that occurs three times is listed once, also across an optional rest. -/
example : (attr "a" none (attr "b" none (attr "a" none
    (optional (attr "b" none (attr "a" none empty)))))).repeatedNames = ["a", "b"] := by
  decide

end Path

end HttpRouting
