/-
The text that values make of a path, and the texts that the path stands for.

* `Path.valuesIn`: the values of the attributes that have one, in the order of the definition;
* `Path.derives_of_uriPart`: what is written is a text that the path stands for, with these values;
* `Path.optionalsDeclare`: every optional rest declares an attribute of its own;
* `Path.uriPart_of_derives`: the values of a text that such a path stands for make this text again;
* `Path.uri_of_derives`: so they do as the URI of a path whose attributes have distinct names.

An optional rest without an attribute of its own is left out where it could have been written: what
it takes leaves no trace in the values.
-/
import HttpRouting.Path.Derivation
import HttpRouting.Path.Uri
import HttpRouting.Proofs.Results
import Mathlib.Data.List.Basic

namespace HttpRouting

/-! ### Values -/

namespace Values

variable {values : Values} {name : String}

/-- A value in front counts if no other one follows. -/
lemma get?_cons (n v : String) :
    get? ((n, v) :: values) name = (values.get? name).or (if n == name then some v else none) := by
  rw [get?, List.reverse_cons, List.find?_append, get?]
  cases values.reverse.find? (·.1 == name) with
  | some e => rfl
  | none => cases hn : n == name <;> simp [hn]

/-- A name that does not occur has no value. -/
lemma get?_eq_none (h : name ∉ values.map (·.1)) : values.get? name = none := by
  rw [get?, Option.map_eq_none_iff, List.find?_eq_none]
  intro e he hname
  exact h (List.mem_map.2 ⟨e, List.mem_reverse.1 he, beq_iff_eq.1 hname⟩)

end Values

namespace Path

/-- The values of the attributes that have one, in the order of the definition. -/
def valuesIn (values : Values) (p : Path) : Values :=
  p.attributeNames.filterMap fun name => (values.get? name).map (name, ·)

variable {registry : TypeRegistry} {values : Values} {definition : String}

lemma valuesIn_attr_of_some {name value : String} {typeName : Option String} {next : Path}
    (h : values.get? name = some value) :
    (attr name typeName next).valuesIn values = (name, value) :: next.valuesIn values := by
  rw [valuesIn, attributeNames, List.filterMap_cons, h]
  rfl

/-- A path has no value exactly if none of its attributes has one. -/
lemma hasValue_eq_false_iff {p : Path} : p.hasValue values = false ↔ p.valuesIn values = [] := by
  simp [hasValue, valuesIn, List.filterMap_eq_nil_iff]

/-! ### What is written -/

lemma valueOf_eq_ok_iff {name value : String} {typeName : Option String} :
    valueOf registry values definition name typeName = .ok value ↔
      values.get? name = some value ∧
        (registry.typeOf typeName).accepts value.toList = true := by
  rw [valueOf]
  cases values.get? name with
  | none => simp
  | some v =>
      dsimp only
      split
      · next ha =>
          constructor
          · intro h
            cases h
            exact ⟨rfl, ha⟩
          · rintro ⟨hv, -⟩
            cases hv
            rfl
      · next ha =>
          constructor
          · intro h
            exact nomatch h
          · rintro ⟨hv, hva⟩
            cases hv
            exact absurd hva ha

lemma uriPart_literal_eq_ok_iff {text u : String} {next : Path} :
    (literal text next).uriPart registry values definition = .ok u ↔
      ∃ rest, next.uriPart registry values definition = .ok rest ∧ text ++ rest = u := by
  rw [uriPart_literal, map_eq_ok_iff]

lemma uriPart_attr_eq_ok_iff {name u : String} {typeName : Option String} {next : Path} :
    (attr name typeName next).uriPart registry values definition = .ok u ↔
      ∃ value rest, values.get? name = some value ∧
        (registry.typeOf typeName).accepts value.toList = true ∧
        next.uriPart registry values definition = .ok rest ∧ value ++ rest = u := by
  rw [uriPart, bind_eq_ok_iff]
  simp only [valueOf_eq_ok_iff, bind_eq_ok_iff]
  constructor
  · rintro ⟨value, ⟨hv, ha⟩, rest, hrest, he⟩
    cases he
    exact ⟨value, rest, hv, ha, hrest, rfl⟩
  · rintro ⟨value, rest, hv, ha, hrest, rfl⟩
    exact ⟨value, ⟨hv, ha⟩, rest, hrest, rfl⟩

/-- **What is written is a text that the path stands for**, with the values of its attributes. -/
theorem derives_of_uriPart {p : Path} {u : String}
    (h : p.uriPart registry values definition = .ok u) :
    p.Derives registry u.toList (p.valuesIn values) := by
  induction p generalizing u with
  | empty =>
      cases h
      exact .empty
  | literal text next ih =>
      obtain ⟨rest, hrest, rfl⟩ := uriPart_literal_eq_ok_iff.1 h
      rw [String.toList_append]
      exact .literal (ih hrest)
  | attr name typeName next ih =>
      obtain ⟨value, rest, hvalue, haccepts, hrest, rfl⟩ := uriPart_attr_eq_ok_iff.1 h
      have hderives : Derives registry (attr name typeName next) _ _ := .attr haccepts (ih hrest)
      rw [String.ofList_toList] at hderives
      rwa [String.toList_append, valuesIn_attr_of_some hvalue]
  | optional inner ih =>
      rw [uriPart] at h
      split at h
      · exact .taken (ih h)
      · next hvalue =>
          cases h
          have hnone : inner.valuesIn values = [] :=
            hasValue_eq_false_iff.1 (Bool.eq_false_iff.2 hvalue)
          rw [valuesIn, attributeNames, ← valuesIn, hnone]
          exact .skipped

/-! ### What is written again -/

/-- A path declares an attribute of its own, not only in its optional rest. -/
def declaresAttribute : Path → Bool
  | empty | optional _ => false
  | literal _ next => next.declaresAttribute
  | attr .. => true

/-- Every optional rest of a path declares an attribute of its own. -/
def optionalsDeclare : Path → Bool
  | empty => true
  | literal _ next | attr _ _ next => next.optionalsDeclare
  | optional inner => inner.declaresAttribute && inner.optionalsDeclare

variable {p : Path} {cs : List Char} {c : Values}

/-- An attribute of its own leaves a trace in the values. -/
lemma Derives.ne_nil (h : p.Derives registry cs c) (hdeclares : p.declaresAttribute = true) :
    c ≠ [] := by
  induction h with
  | empty | skipped | taken => exact nomatch hdeclares
  | literal rest ih => exact ih hdeclares
  | attr accepts rest ih => exact List.cons_ne_nil _ _

/-- Values are of attributes of the path. -/
lemma Derives.mem_attributeNames (h : p.Derives registry cs c) {name : String}
    (hname : name ∈ c.map (·.1)) : name ∈ p.attributeNames := by
  induction h with
  | empty | skipped => exact nomatch hname
  | literal rest ih | taken rest ih => exact ih hname
  | attr accepts rest ih =>
      rcases List.mem_cons.1 hname with rfl | hname
      · exact List.mem_cons_self
      · exact List.mem_cons_of_mem _ (ih hname)

/-- **Values of attributes with distinct names are told apart by these.** -/
theorem Derives.valuesIn_eq (h : p.Derives registry cs c) (hnodup : p.attributeNames.Nodup) :
    p.valuesIn c = c := by
  induction h with
  | empty | skipped => simp [valuesIn, Values.get?]
  | literal rest ih | taken rest ih => exact ih hnodup
  | @attr name typeName next value cs others accepts rest ih =>
      obtain ⟨hname, hnodup⟩ := List.nodup_cons.1 hnodup
      have hothers : Values.get? others name = none :=
        Values.get?_eq_none fun hmem => hname (rest.mem_attributeNames hmem)
      have hvalue : Values.get? ((name, String.ofList value) :: others) name =
          some (String.ofList value) := by
        rw [Values.get?_cons, hothers, beq_self_eq_true, if_pos rfl, Option.none_or]
      have hnext : next.valuesIn ((name, String.ofList value) :: others) =
          next.valuesIn others := by
        refine List.filterMap_congr fun n hn => ?_
        have hne : (name == n) = false := beq_false_of_ne fun he => hname (he ▸ hn)
        rw [Values.get?_cons, hne, if_neg (by decide), Option.or_none]
      rw [valuesIn_attr_of_some hvalue, hnext, ih hnodup]

/-- The first attribute has the value that comes first, and the others have the others. -/
lemma eq_of_valuesIn_attr {name value : String} {typeName : Option String} {next : Path}
    {others : Values} (hname : name ∉ next.attributeNames)
    (h : (attr name typeName next).valuesIn values = (name, value) :: others) :
    values.get? name = some value ∧ next.valuesIn values = others := by
  cases hget : values.get? name with
  | none =>
      -- then the value would be of a later attribute, where the name does not occur
      have hnext : next.valuesIn values = (name, value) :: others := by
        rw [← h, valuesIn, valuesIn, attributeNames, List.filterMap_cons, hget]
        rfl
      have hmem : (name, value) ∈ next.valuesIn values := hnext ▸ List.mem_cons_self
      obtain ⟨n, hn, he⟩ := List.mem_filterMap.1 hmem
      obtain ⟨v, -, hv⟩ := Option.map_eq_some_iff.1 he
      exact absurd ((Prod.mk.inj hv).1 ▸ hn) hname
  | some v =>
      rw [valuesIn_attr_of_some hget] at h
      obtain ⟨he, hothers⟩ := List.cons.inj h
      exact ⟨congrArg some (Prod.mk.inj he).2, hothers⟩

/-- **The values of a text that the path stands for make this text**, if every optional rest
declares an attribute of its own. -/
theorem uriPart_of_derives (h : p.Derives registry cs (p.valuesIn values))
    (hnodup : p.attributeNames.Nodup) (hdeclare : p.optionalsDeclare = true) :
    p.uriPart registry values definition = .ok (String.ofList cs) := by
  induction p generalizing cs with
  | empty =>
      obtain ⟨rfl, -⟩ := derives_empty_iff.1 h
      rfl
  | literal text next ih =>
      obtain ⟨rest, rfl, hrest⟩ := derives_literal_iff.1 h
      rw [uriPart_literal_eq_ok_iff]
      exact ⟨_, ih hrest hnodup hdeclare, by rw [String.ofList_append, String.ofList_toList]⟩
  | attr name typeName next ih =>
      obtain ⟨value, rest, others, rfl, hvalues, haccepts, hrest⟩ := derives_attr_iff.1 h
      obtain ⟨hname, hnodup⟩ := List.nodup_cons.1 hnodup
      obtain ⟨hvalue, rfl⟩ := eq_of_valuesIn_attr hname hvalues
      rw [← String.toList_ofList (l := value)] at haccepts
      rw [uriPart_attr_eq_ok_iff]
      exact ⟨_, _, hvalue, haccepts, ih hrest hnodup hdeclare, String.ofList_append.symm⟩
  | optional inner ih =>
      obtain ⟨hown, hdeclare⟩ := Bool.and_eq_true_iff.1 hdeclare
      rcases derives_optional_iff.1 h with h | ⟨rfl, hnone⟩
      · -- the attribute of its own has a value, so the rest is written
        have hvalue : inner.hasValue values = true :=
          Bool.of_not_eq_false fun he => h.ne_nil hown (hasValue_eq_false_iff.1 he)
        rw [uriPart, if_pos hvalue]
        exact ih h hnodup hdeclare
      · exact uriPart_optional_of_not (hasValue_eq_false_iff.2 hnone)

/-! ### URIs without a prefix -/

lemma uri_eq_uriPart : p.uri registry values "" = p.uriPart registry values p.render := by
  rw [uri]
  cases p.uriPart registry values p.render with
  | error e => rfl
  | ok u => exact congrArg Except.ok String.empty_append

/-- **A URI is a text that the path stands for**, with the values of its attributes. -/
theorem derives_of_uri {u : String} (h : p.uri registry values "" = .ok u) :
    p.Derives registry u.toList (p.valuesIn values) :=
  derives_of_uriPart (uri_eq_uriPart.symm.trans h)

/-- **The values of a text that the path stands for make the text as a URI**, if attributes have
distinct names and every optional rest declares one of its own. -/
theorem uri_of_derives (h : p.Derives registry cs c) (hnodup : p.attributeNames.Nodup)
    (hdeclare : p.optionalsDeclare = true) :
    p.uri registry c "" = .ok (String.ofList cs) := by
  have hvalues : p.Derives registry cs (p.valuesIn c) := by rwa [h.valuesIn_eq hnodup]
  calc p.uri registry c "" = p.uriPart registry c p.render := uri_eq_uriPart
    _ = .ok (String.ofList cs) := uriPart_of_derives hvalues hnodup hdeclare

/-- A rest without an attribute of its own may be there in a text, but it is not written. -/
example : Derives registry (literal "a" (optional (literal "b" empty))) "ab".toList [] ∧
    (literal "a" (optional (literal "b" empty))).uri registry [] "" = .ok "a" :=
  ⟨.literal (.taken (.literal .empty)), rfl⟩

end Path

end HttpRouting
