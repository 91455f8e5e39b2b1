/-
What bindings do to the attributes of a request.

* `Request.get?_bind`, `Request.get?_bindAll`: the values after one and after several bindings;
* `Request.bindAll_eq_self`: binding the values that a request has changes nothing;
* `Request.HasDistinctNames`: no name is bound twice, which bindings keep;
* `Request.attributes_bindAll`: the bound names keep their places and take the new values, and the
  names that are new follow in the order of their bindings.
-/
import HttpRouting.Proofs.Lists
import HttpRouting.Request
import Mathlib.Data.List.Nodup

namespace HttpRouting.Request

variable {r : Request} {name value : String} {as bound : List (String × String)}

/-! ### Values -/

/-- A request looks its values up by their names. -/
lemma get?_eq_lookup (r : Request) (name : String) : r.get? name = r.attributes.lookup name := by
  rw [get?]
  induction r.attributes with
  | nil => rfl
  | cons a as ih =>
      rw [List.find?_cons, lookup_cons_eq, ← ih]
      by_cases h : name = a.1
      · rw [if_pos h, h, beq_self_eq_true]
        rfl
      · rw [if_neg h, beq_false_of_ne (Ne.symm h)]

lemma lookup_setValue (as : List (String × String)) (name value n : String) :
    (setValue name value as).lookup n = if n = name then some value else as.lookup n := by
  induction as with
  | nil => exact lookup_cons_eq name value [] n
  | cons a as ih =>
      obtain ⟨m, v⟩ := a
      rw [setValue]
      split
      · next hm =>
          rw [lookup_cons_eq, lookup_cons_eq, hm]
          split <;> rfl
      · next hm =>
          rw [lookup_cons_eq, lookup_cons_eq, ih]
          by_cases hn : n = m
          · rw [if_pos hn, if_pos hn, if_neg (hn ▸ hm)]
          · rw [if_neg hn, if_neg hn]

/-- A binding gives its name the value, and keeps the other values. -/
lemma get?_bind (r : Request) (name value n : String) :
    (r.bind name value).get? n = if n = name then some value else r.get? n := by
  rw [get?_eq_lookup, get?_eq_lookup, bind, lookup_setValue]

/-- Several bindings are a first one and then the others. -/
lemma bindAll_cons (r : Request) (name value : String) (bound : List (String × String)) :
    r.bindAll ((name, value) :: bound) = (r.bind name value).bindAll bound := rfl

/-- **Bindings of distinct names give these the values**, and keep the other values. -/
theorem get?_bindAll (hbound : (bound.map (·.1)).Nodup) (n : String) :
    (r.bindAll bound).get? n = (bound.lookup n).or (r.get? n) := by
  induction bound generalizing r with
  | nil => rfl
  | cons b bound ih =>
      obtain ⟨name, value⟩ := b
      obtain ⟨hname, hbound⟩ := List.nodup_cons.1 hbound
      rw [bindAll_cons, ih hbound, get?_bind, lookup_cons_eq]
      by_cases hn : n = name
      · rw [if_pos hn, if_pos hn, hn, lookup_eq_none.2 hname]
        rfl
      · rw [if_neg hn, if_neg hn]

/-! ### Values that are there already -/

lemma setValue_eq_self (h : as.lookup name = some value) : setValue name value as = as := by
  induction as with
  | nil => cases h
  | cons a as ih =>
      obtain ⟨n, v⟩ := a
      rw [lookup_cons_eq] at h
      rw [setValue]
      by_cases hn : name = n
      · rw [if_pos hn] at h
        cases h
        rw [if_pos hn.symm, hn]
      · rw [if_neg hn] at h
        rw [if_neg (Ne.symm hn), ih h]

/-- Binding a value that a request has changes nothing. -/
lemma bind_eq_self (h : r.get? name = some value) : r.bind name value = r := by
  rw [get?_eq_lookup] at h
  rw [bind, setValue_eq_self h]

/-- **Binding values that a request has changes nothing.** -/
theorem bindAll_eq_self (h : ∀ b ∈ bound, r.get? b.1 = some b.2) : r.bindAll bound = r := by
  induction bound with
  | nil => rfl
  | cons b bound ih =>
      obtain ⟨hb, hbound⟩ := List.forall_mem_cons.1 h
      rw [bindAll_cons, bind_eq_self hb, ih hbound]

/-- So it does to bind the same values once more. -/
lemma bindAll_bindAll (hbound : (bound.map (·.1)).Nodup) :
    (r.bindAll bound).bindAll bound = r.bindAll bound := by
  refine bindAll_eq_self fun b hb => ?_
  rw [get?_bindAll hbound, (lookup_eq_some_iff_mem hbound).2 hb, Option.some_or]

/-! ### The order of names -/

/-- No name is bound twice. -/
def HasDistinctNames (r : Request) : Prop :=
  (r.attributes.map (·.1)).Nodup

/-- Nothing is bound on the request for a URI. -/
lemma hasDistinctNames_ofUri (method uri : String) : (ofUri method uri).HasDistinctNames :=
  List.nodup_nil

/-- A binding keeps names distinct. -/
lemma HasDistinctNames.bind (h : r.HasDistinctNames) (name value : String) :
    (r.bind name value).HasDistinctNames := by
  rw [HasDistinctNames, names_bind]
  split
  · exact h
  · next hname =>
      refine List.nodup_append.2 ⟨h, List.nodup_singleton name, fun a ha b hb => ?_⟩
      rw [List.mem_singleton.1 hb]
      exact fun he => hname (he ▸ ha)

/-- So do several. -/
lemma HasDistinctNames.bindAll (h : r.HasDistinctNames) (bound : List (String × String)) :
    (r.bindAll bound).HasDistinctNames := by
  induction bound generalizing r with
  | nil => exact h
  | cons b bound ih => exact ih (h.bind b.1 b.2)

@[simp] lemma method_bindAll (r : Request) (bound : List (String × String)) :
    (r.bindAll bound).method = r.method := by
  induction bound generalizing r with
  | nil => rfl
  | cons b bound ih => rw [bindAll_cons, ih, method_bind]

@[simp] lemma path_bindAll (r : Request) (bound : List (String × String)) :
    (r.bindAll bound).path = r.path := by
  induction bound generalizing r with
  | nil => rfl
  | cons b bound ih => rw [bindAll_cons, ih, path_bind]

/-- A new name comes last. -/
lemma setValue_of_not_mem (h : name ∉ as.map (·.1)) :
    setValue name value as = as ++ [(name, value)] := by
  induction as with
  | nil => rfl
  | cons a as ih =>
      obtain ⟨n, v⟩ := a
      rw [List.map_cons, List.mem_cons, not_or] at h
      rw [setValue, if_neg (Ne.symm h.1), ih h.2, List.cons_append]

/-- The attribute with the value that is bound to its name, if there is one. -/
def overriddenBy (bound : List (String × String)) (a : String × String) : String × String :=
  (a.1, (bound.lookup a.1).getD a.2)

lemma overriddenBy_of_not_mem {a : String × String} (h : a.1 ∉ bound.map (·.1)) :
    overriddenBy bound a = a := by
  rw [overriddenBy, lookup_eq_none.2 h, Option.getD_none]

lemma map_overriddenBy_of_not_mem (h : ∀ a ∈ as, a.1 ∉ bound.map (·.1)) :
    as.map (overriddenBy bound) = as :=
  (List.map_congr_left fun a ha => overriddenBy_of_not_mem (h a ha)).trans (List.map_id as)

/-- A first value overrides before the others do. -/
lemma overriddenBy_cons (h : name ∉ bound.map (·.1)) (a : String × String) :
    overriddenBy ((name, value) :: bound) a =
      overriddenBy bound (overriddenBy [(name, value)] a) := by
  simp only [overriddenBy, lookup_cons_eq, List.lookup_nil]
  by_cases ha : a.1 = name
  · rw [if_pos ha, if_pos ha, ha, lookup_eq_none.2 h]
    rfl
  · rw [if_neg ha, if_neg ha]
    rfl

/-- A name that is there keeps its place. -/
lemma setValue_of_mem (has : (as.map (·.1)).Nodup) (h : name ∈ as.map (·.1)) :
    setValue name value as = as.map (overriddenBy [(name, value)]) := by
  induction as with
  | nil => cases h
  | cons a as ih =>
      obtain ⟨n, v⟩ := a
      obtain ⟨hn, has⟩ := List.nodup_cons.1 has
      rw [setValue, List.map_cons]
      by_cases hname : n = name
      · subst hname
        have hrest : as.map (overriddenBy [(n, value)]) = as := by
          refine map_overriddenBy_of_not_mem fun a ha hmem => hn ?_
          exact List.mem_map.2 ⟨a, ha, List.mem_singleton.1 hmem⟩
        rw [if_pos rfl, hrest, overriddenBy, lookup_cons_eq, if_pos rfl]
        rfl
      · rw [if_neg hname, ih has ((List.mem_cons.1 h).resolve_left (Ne.symm hname)),
          overriddenBy_of_not_mem (mt List.mem_singleton.1 hname)]

/-- **Bindings of distinct names override values in place and append what is new.** The names that
are there keep their order, and the others follow in the order in which they are bound. -/
theorem attributes_bindAll (hnames : r.HasDistinctNames) (hbound : (bound.map (·.1)).Nodup) :
    (r.bindAll bound).attributes =
      r.attributes.map (overriddenBy bound) ++
        bound.filter fun b => b.1 ∉ r.attributes.map (·.1) := by
  induction bound generalizing r with
  | nil =>
      rw [map_overriddenBy_of_not_mem fun a _ => List.not_mem_nil]
      exact (List.append_nil _).symm
  | cons b bound ih =>
      obtain ⟨name, value⟩ := b
      obtain ⟨hname, hbound⟩ := List.nodup_cons.1 hbound
      rw [bindAll_cons, ih (hnames.bind name value) hbound, names_bind]
      by_cases h : name ∈ r.attributes.map (·.1)
      · have hset : (r.bind name value).attributes = _ := setValue_of_mem hnames h
        rw [hset, List.map_map, if_pos h, List.filter_cons_of_neg (by simpa using h)]
        congr 1
        exact List.map_congr_left fun a _ => (overriddenBy_cons hname a).symm
      · have hset : (r.bind name value).attributes = _ := setValue_of_not_mem h
        have hkept : r.attributes.map (overriddenBy bound) =
            r.attributes.map (overriddenBy ((name, value) :: bound)) := by
          refine List.map_congr_left fun a ha => ?_
          have hne : a.1 ∉ [(name, value)].map (·.1) := fun hmem =>
            h (List.mem_map.2 ⟨a, ha, List.mem_singleton.1 hmem⟩)
          rw [overriddenBy_cons hname, overriddenBy_of_not_mem hne]
        have hnew : (bound.filter fun b => b.1 ∉ r.attributes.map (·.1) ++ [name]) =
            bound.filter fun b => b.1 ∉ r.attributes.map (·.1) := by
          refine List.filter_congr fun b hb => ?_
          have hne : b.1 ≠ name := fun he => hname (List.mem_map.2 ⟨b, hb, he⟩)
          simp [hne]
        have hvalue : overriddenBy bound (name, value) = (name, value) :=
          overriddenBy_of_not_mem hname
        rw [hset, List.map_append, if_neg h, List.filter_cons_of_pos (by simpa using h), hkept,
          hnew, List.append_assoc, List.map_singleton, hvalue]
        rfl

end HttpRouting.Request
