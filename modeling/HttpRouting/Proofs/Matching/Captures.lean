/-
The attributes that a match captures.

* `Path.Derives.names_sublist`, `Path.Derives.mem_names_of_required`: what a path stands for has
  values for some of its attributes, in their order, and for all that are required;
* `captureAll_sublist`: the groups that took part in a match are some of those of a route;
* `BelongTo`: groups belong to the attributes of the routes of a table;
* `MarkedPattern.belongTo_ofTable?`, `MarkedPattern.belongTo_ofForest?`,
  `PatternPerRoute.belongTo_ofTable?`: so do those of the patterns of a table;
* `Matcher.names_sublist_of_find`: whatever the strategy and the types, a match captures attributes
  of its route, in the order of the definition;
* `Matcher.nodup_names_of_find`: their names are distinct.
-/
import HttpRouting.Proofs.Matching.Generation

namespace HttpRouting

variable {α : Type}

/-! ### Texts of a path -/

namespace Path.Derives

variable {registry : TypeRegistry} {p : Path} {cs : List Char} {values : List (String × String)}

/-- The values are those of some attributes, in the order of the definition. -/
lemma names_sublist (h : p.Derives registry cs values) :
    (values.map (·.1)).Sublist p.attributeNames := by
  induction h with
  | empty => exact .slnil
  | literal rest ih => exact ih
  | attr accepts rest ih => exact ih.cons_cons _
  | taken rest ih => exact ih
  | skipped => exact List.nil_sublist _

/-- Every required attribute has a value. -/
lemma mem_names_of_required (h : p.Derives registry cs values) {a : Attribute}
    (ha : a ∈ p.attributes) (hrequired : a.required = true) : a.name ∈ values.map (·.1) := by
  induction h with
  | empty => cases ha
  | literal rest ih => exact ih ha
  | attr accepts rest ih =>
      rcases List.mem_cons.1 ha with rfl | ha
      · exact List.mem_cons_self
      · exact List.mem_cons_of_mem _ (ih ha)
  | taken _ _ | skipped =>
      rw [attributes_optional] at ha
      rw [required_of_mem_attributesAs_false ha] at hrequired
      cases hrequired

end Path.Derives

/-! ### Groups -/

/-- The groups that took part are some of those that are given. -/
lemma captureAll_sublist (m : Pattern.Match) (bindings : List Binding) :
    ((captureAll m bindings).map (·.1)).Sublist (bindings.map (·.1)) := by
  induction bindings with
  | nil => exact .slnil
  | cons b bindings ih =>
      rw [captureAll_cons]
      cases m.group? b.2 with
      | none => exact ih.cons b.1
      | some v => exact ih.cons_cons b.1

/-- Groups, listed route by route, belong to the attributes of the routes of a table. -/
def BelongTo (bindings : List (List Binding)) (t : RouteTable α) : Prop :=
  bindings.map (fun bs => bs.map (·.1)) = t.routes.map (·.path.attributeNames)

/-- What such groups capture are attributes of their route. -/
lemma BelongTo.exists_sublist {bindings : List (List Binding)} {t : RouteTable α}
    (h : BelongTo bindings t) {i : Nat} {bs : List Binding} (hbs : bindings[i]? = some bs)
    (m : Pattern.Match) :
    ∃ r, t.get? i = some r ∧ ((captureAll m bs).map (·.1)).Sublist r.path.attributeNames := by
  have hat := congrArg (·[i]?) h
  simp only [List.getElem?_map, hbs, Option.map_some] at hat
  obtain ⟨r, hr, he⟩ := Option.map_eq_some_iff.1 hat.symm
  exact ⟨r, hr, he ▸ captureAll_sublist m bs⟩

/-- The numbered groups of routes belong to them. -/
lemma belongTo_marked (t : RouteTable α) : BelongTo (t.marked.map (·.bindings)) t := by
  rw [BelongTo, List.map_map, ← t.map_route_marked, List.map_map]
  exact List.map_congr_left fun x _ => map_fst_pathBindings x.route.path x.number

namespace MarkedPattern

variable {p : MarkedPattern} {t : RouteTable α}

/-- A pattern has the groups that it is given. -/
lemma bindings_ofBody? {body : Option (List Char)} {bindings : List (List Binding)}
    {methods : List Method} (h : ofBody? body bindings methods = some p) : p.bindings = bindings := by
  cases body with
  | none =>
      cases h
      rfl
  | some body =>
      obtain ⟨q, -, rfl⟩ := Option.map_eq_some_iff.1 h
      rfl

/-- The groups of the pattern with the routes side by side belong to the routes. -/
lemma belongTo_ofTable? (h : ofTable? t = some p) : BelongTo p.bindings t := by
  rw [bindings_ofBody? h, routeAlternatives_eq_map, List.map_map]
  exact belongTo_marked t

/-- So do those of the pattern with the trees side by side. -/
lemma belongTo_ofForest? (h : ofForest? t (Forest.ofTable t) = some p) :
    BelongTo p.bindings t := by
  rw [bindings_ofBody? h, forestAlternatives_ofTable, bindingsByIndex_marked]
  exact belongTo_marked t

/-- A match captures the groups of its route. -/
lemma exists_bindings_of_find {method path : String} {i : Nat} {c : Captures}
    (h : p.find method path = .matched i c) :
    ∃ bs m, p.bindings[i]? = some bs ∧ captureAll m bs = c := by
  rw [find] at h
  split at h
  · next hlookup =>
      cases h
      obtain ⟨-, hlookup⟩ := Option.ite_none_right_eq_some.1 hlookup
      obtain ⟨_, -, hlookup⟩ := Option.bind_eq_some_iff.1 hlookup
      obtain ⟨m, -, hlookup⟩ := Option.bind_eq_some_iff.1 hlookup
      obtain ⟨_, hindex, he⟩ := Option.bind_eq_some_iff.1 hlookup
      cases he
      have hlt : i < p.bindings.length := List.mem_range.1 (List.mem_of_find?_eq_some hindex)
      rw [List.getElem?_eq_getElem hlt]
      exact ⟨_, m, rfl, rfl⟩
  · cases h

end MarkedPattern

namespace PatternPerRoute

variable {p : PatternPerRoute} {t : RouteTable α}

/-- The groups of the patterns belong to their routes. -/
lemma belongTo_ofTable? (h : ofTable? t = some p) : BelongTo (p.routes.map (·.bindings)) t := by
  rw [BelongTo, List.map_map]
  refine (map_eq_map_of_forall₂ ((forall₂_ofTable? h).imp fun r q hq => ?_)).symm
  obtain ⟨pattern, -, rfl⟩ := Option.map_eq_some_iff.1 hq
  exact (map_fst_pathBindings r.path 0).symm

/-- A match captures the groups of its route. -/
lemma exists_bindings_of_find {method path : String} {i : Nat} {c : Captures}
    (h : p.find method path = .matched i c) :
    ∃ bs m, (p.routes.map (·.bindings))[i]? = some bs ∧ captureAll m bs = c := by
  have hdec := p.find_decides_answers method path
  rw [h] at hdec
  obtain ⟨_, -, hat⟩ := hdec.getElem?_of_matched
  rw [answers, List.getElem?_map] at hat
  obtain ⟨q, hq, he⟩ := Option.map_eq_some_iff.1 hat
  obtain ⟨m, -, hm⟩ := Option.map_eq_some_iff.1 (congrArg Prod.snd he)
  exact ⟨q.bindings, m, by rw [List.getElem?_map, hq, Option.map_some], hm⟩

end PatternPerRoute

/-! ### Matches -/

namespace Matcher

variable {t : RouteTable α} {s : Strategy} {m : Matcher}

/-- **A match captures attributes of its route, in the order of the definition**, whatever the
strategy and the types are. -/
theorem names_sublist_of_find (hcompile : compile t s = .ok m) {method path : String} {i : Nat}
    {c : Captures} (hfind : m.find method path = .matched i c) :
    ∃ r, t.get? i = some r ∧ (c.map (·.1)).Sublist r.path.attributeNames := by
  cases hs : s.isPattern with
  | false =>
      have htypes : s.isPattern = true → t.IsSelfContained := fun h => nomatch hs.symm.trans h
      obtain ⟨r, hr, -, htakes⟩ := takes_of_find htypes hcompile hfind
      exact ⟨r, hr, htakes.names_sublist⟩
  | true =>
      have hmatcher := compile?_eq_some hcompile
      cases s with
      | multiPattern =>
          obtain ⟨p, hp, rfl⟩ := Option.map_eq_some_iff.1 hmatcher
          obtain ⟨bs, m, hbs, rfl⟩ := PatternPerRoute.exists_bindings_of_find hfind
          exact (PatternPerRoute.belongTo_ofTable? hp).exists_sublist hbs m
      | singlePattern =>
          obtain ⟨p, hp, rfl⟩ := Option.map_eq_some_iff.1 hmatcher
          obtain ⟨bs, m, hbs, rfl⟩ := MarkedPattern.exists_bindings_of_find hfind
          exact (MarkedPattern.belongTo_ofTable? hp).exists_sublist hbs m
      | treePattern =>
          obtain ⟨p, hp, rfl⟩ := Option.map_eq_some_iff.1 hmatcher
          obtain ⟨bs, m, hbs, rfl⟩ := MarkedPattern.exists_bindings_of_find hfind
          exact (MarkedPattern.belongTo_ofForest? hp).exists_sublist hbs m
      | linear | tree => cases hs

/-- The captured attributes of a registered route have distinct names. -/
lemma nodup_names_of_find (hregistered : t.Registered) (hcompile : compile t s = .ok m)
    {method path : String} {i : Nat} {c : Captures} (hfind : m.find method path = .matched i c) :
    (c.map (·.1)).Nodup := by
  obtain ⟨r, hr, hsublist⟩ := names_sublist_of_find hcompile hfind
  have hvalid := (hregistered.isMade r (List.mem_of_getElem? hr)).validate
  exact hsublist.nodup (Path.validate_eq_ok_iff.1 hvalid).1

end Matcher

end HttpRouting
