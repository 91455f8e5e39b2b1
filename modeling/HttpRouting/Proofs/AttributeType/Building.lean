/-
What a builder builds.

* `lastPatterns`: names in the order in which they were declared first, with the patterns declared
  last;
* `nodup_lastPatterns`: each name stands there once;
* `RegistryBuilder.Reflects`: a builder holds what was declared and chosen;
* `RegistryBuilder.Reflects.add`, `RegistryBuilder.Reflects.chooseImplicit`,
  `RegistryBuilder.Reflects.afterAll`: calls keep this;
* `typeFault?`, `firstFault?`: what is wrong with a type on its own, and with the first of several;
* `TypeRegistry.typesOf_spec`: the first fault of declarations with distinct names decides, and
  without one they are the types;
* `BuilderCall.build_afterAll`: the registry, or the fault, after any calls;
* `BuilderCall.build_of_silentGroup`: a group that reports nothing is not noticed.

A builder declares no name twice, and marks the declaration of one name as implicit. So two of the
faults that declarations can have never come up.
-/
import HttpRouting.AttributeType.Calls
import HttpRouting.Proofs.Lists
import HttpRouting.Proofs.Results

namespace HttpRouting

/-! ### Last patterns -/

/-- Names with the patterns declared last for them. A name stands where it was declared first. -/
def lastPatterns (ds : List (String × String)) : List (String × String) :=
  (ds.map (·.1)).eraseDups.filterMap fun name => (ds.reverse.lookup name).map (name, ·)

section LastPatterns

variable {ds : List (String × String)} {name pattern : String}

/-- A name that is declared has a last pattern. -/
lemma exists_lookup_reverse (h : name ∈ ds.map (·.1)) : ∃ p, ds.reverse.lookup name = some p := by
  rw [← Option.ne_none_iff_exists', ne_eq, lookup_eq_none, List.map_reverse, List.mem_reverse,
    not_not]
  exact h

/-- The names are those that were declared, each where it came first. -/
lemma map_fst_lastPatterns : (lastPatterns ds).map (·.1) = (ds.map (·.1)).eraseDups := by
  rw [lastPatterns, List.map_filterMap]
  conv_rhs => rw [← List.filterMap_some (l := (ds.map (·.1)).eraseDups)]
  refine List.filterMap_congr fun n hn => ?_
  obtain ⟨p, hp⟩ := exists_lookup_reverse (List.mem_eraseDups.1 hn)
  rw [hp]
  rfl

lemma mem_map_fst_lastPatterns : name ∈ (lastPatterns ds).map (·.1) ↔ name ∈ ds.map (·.1) := by
  rw [map_fst_lastPatterns, List.mem_eraseDups]

/-- No name stands there twice. -/
lemma nodup_lastPatterns : ((lastPatterns ds).map (·.1)).Nodup := by
  rw [map_fst_lastPatterns]
  exact nodup_eraseDups _

lemma reverse_concat_lookup (ds : List (String × String)) (d : String × String) (name : String) :
    (ds ++ [d]).reverse.lookup name = if name = d.1 then some d.2 else ds.reverse.lookup name := by
  rw [List.reverse_append, List.reverse_singleton, List.singleton_append, lookup_cons_eq]

/-- A name that was declared before keeps its place and takes the new pattern. -/
lemma lastPatterns_concat_of_mem (h : name ∈ ds.map (·.1)) :
    lastPatterns (ds ++ [(name, pattern)]) =
      (lastPatterns ds).map fun d => if d.1 = name then (d.1, pattern) else d := by
  rw [lastPatterns, List.map_append, List.map_singleton, eraseDups_concat, if_pos h, lastPatterns,
    List.map_filterMap]
  refine List.filterMap_congr fun n hn => ?_
  obtain ⟨p, hp⟩ := exists_lookup_reverse (List.mem_eraseDups.1 hn)
  rw [reverse_concat_lookup, hp]
  by_cases hname : n = name <;> simp [hname]

/-- A new name is added at the end. -/
lemma lastPatterns_concat_of_not_mem (h : name ∉ ds.map (·.1)) :
    lastPatterns (ds ++ [(name, pattern)]) = lastPatterns ds ++ [(name, pattern)] := by
  rw [lastPatterns, List.map_append, List.map_singleton, eraseDups_concat, if_neg h,
    List.filterMap_append]
  congr 1
  · refine List.filterMap_congr fun n hn => ?_
    have hne : n ≠ name := fun he => h (he ▸ List.mem_eraseDups.1 hn)
    rw [reverse_concat_lookup, if_neg hne]
  · simp

end LastPatterns

/-! ### Calls -/

namespace RegistryBuilder

/-- The builder holds what was declared, each name once, and the name that was chosen. No
declaration is marked as implicit yet. -/
structure Reflects (b : RegistryBuilder) (ds : List (String × String)) (chosen : Option String) :
    Prop where
  declarations_eq : b.declarations = (lastPatterns ds).map fun d => { name := d.1, pattern := d.2 }
  implicit_eq : b.implicit = chosen

namespace Reflects

variable {b : RegistryBuilder} {ds : List (String × String)} {chosen : Option String}

lemma empty : RegistryBuilder.empty.Reflects [] none where
  declarations_eq := rfl
  implicit_eq := rfl

lemma any_name_iff (h : b.Reflects ds chosen) {name : String} :
    b.declarations.any (·.name == name) = true ↔ name ∈ ds.map (·.1) := by
  rw [← mem_map_fst_lastPatterns, h.declarations_eq, List.any_map, List.any_eq_true, List.mem_map]
  exact exists_congr fun d => and_congr_right fun _ => beq_iff_eq

/-- Declaring a type keeps the builder in step. -/
lemma add (h : b.Reflects ds chosen) (name pattern : String) :
    (b.add name pattern).Reflects (ds ++ [(name, pattern)]) chosen := by
  rw [RegistryBuilder.add]
  by_cases hmem : name ∈ ds.map (·.1)
  · rw [if_pos (h.any_name_iff.2 hmem)]
    refine ⟨?_, h.implicit_eq⟩
    rw [lastPatterns_concat_of_mem hmem, h.declarations_eq, List.map_map, List.map_map]
    refine List.map_congr_left fun d _ => ?_
    by_cases hname : d.1 = name <;> simp [hname]
  · rw [if_neg (mt h.any_name_iff.1 hmem)]
    refine ⟨?_, h.implicit_eq⟩
    rw [lastPatterns_concat_of_not_mem hmem, h.declarations_eq, List.map_append]
    rfl

/-- So does choosing the implicit type. -/
lemma chooseImplicit (h : b.Reflects ds chosen) (name : String) :
    (b.chooseImplicit name).Reflects ds (some name) :=
  ⟨h.declarations_eq, rfl⟩

/-- **After calls, a builder holds what they declared after what was declared before**, and the name
that was chosen last. -/
theorem afterAll (h : b.Reflects ds chosen) (calls : List BuilderCall) :
    (BuilderCall.afterAll b calls).Reflects (ds ++ calls.filterMap (·.declared?))
      ((calls.filterMap (·.chosen?)).getLast?.or chosen) := by
  induction calls generalizing b ds chosen with
  | nil =>
      rw [List.filterMap_nil, List.append_nil]
      exact h
  | cons call calls ih =>
      cases call with
      | add name pattern =>
          have hrest := ih (h.add name pattern)
          rw [List.append_assoc] at hrest
          exact hrest
      | chooseImplicit name =>
          have hrest := ih (h.chooseImplicit name)
          have hlast : ((BuilderCall.chooseImplicit name :: calls).filterMap (·.chosen?)).getLast? =
              some ((calls.filterMap (·.chosen?)).getLast?.getD name) := List.getLast?_cons
          rw [Option.or_some] at hrest
          rw [hlast, Option.some_or]
          exact hrest

end Reflects

/-- The builders to start from hold what they are said to. -/
lemma reflects_start (start : BuilderStart) :
    start.builder.Reflects start.patterns start.implicit? := by
  cases start with
  | empty => exact .empty
  | builtIn =>
      exact Reflects.empty.afterAll
        (defaultPatterns.map (fun d => .add d.1 d.2) ++ [.chooseImplicit "any"])

end RegistryBuilder

/-! ### Faults of declarations -/

/-- What is wrong with a type on its own. Its name may be no name. Its pattern may not be one,
between parentheses or as a whole, or may have groups that report under a name. -/
def typeFault? (name pattern : String) : Option TypeError :=
  if isName name then
    match Pattern.parse? (groupedText pattern) with
    | none => some (.invalidPattern name pattern)
    | some p =>
      if p.groupNames.isEmpty then
        if (Pattern.parse? (wholeText pattern)).isSome then none
        else some (.invalidPattern name pattern)
      else some (.namedGroup name pattern)
  else some (.invalidName name)

/-- What declares a type. -/
def AttributeType.declaration (t : AttributeType) : TypeDeclaration :=
  ⟨t.name, t.pattern, t.implicit⟩

/-- A declaration makes a type unless something is wrong with it. -/
lemma AttributeType.ofDeclaration_spec {d : TypeDeclaration} (hname : isName d.name = true) :
    match typeFault? d.name d.pattern with
    | some e => ofDeclaration d = .error e
    | none => ∃ t, ofDeclaration d = .ok t ∧ t.declaration = d := by
  rw [typeFault?, if_pos hname]
  fun_cases ofDeclaration d with
  | case1 hg => rw [hg]
  | case2 p hg hp hw =>
      simp only [hg, hp, hw]
      rfl
  | case3 p hg hp whole hw =>
      simp only [hg, hp, hw]
      exact ⟨_, rfl, rfl⟩
  | case4 p hg hp =>
      simp only [hg, hp]
      rfl

namespace TypeRegistry

variable {done : List AttributeType} {d : TypeDeclaration} {ds : List TypeDeclaration}

/-- With a new name, a declaration that is at fault decides. -/
lemma typesOf_cons_of_fault {e : TypeError} (hfree : ∀ t ∈ done, t.name ≠ d.name)
    (h : typeFault? d.name d.pattern = some e) : typesOf done (d :: ds) = .error e := by
  have hany : done.any (·.name == d.name) = false := by simpa using hfree
  rw [typesOf, hany]
  cases hname : isName d.name with
  | false =>
      rw [typeFault?, hname] at h
      exact congrArg _ (Option.some.inj h)
  | true =>
      have hspec := AttributeType.ofDeclaration_spec hname
      rw [h] at hspec
      dsimp only at hspec
      simp [hspec]

/-- With a new name, a declaration that is not makes the next type. -/
lemma exists_typesOf_cons (hfree : ∀ t ∈ done, t.name ≠ d.name)
    (h : typeFault? d.name d.pattern = none) :
    ∃ t, t.declaration = d ∧ typesOf done (d :: ds) = (typesOf (done ++ [t]) ds).map (t :: ·) := by
  have hany : done.any (·.name == d.name) = false := by simpa using hfree
  rw [typesOf, hany]
  cases hname : isName d.name with
  | false =>
      rw [typeFault?, hname] at h
      exact nomatch h
  | true =>
      have hspec := AttributeType.ofDeclaration_spec hname
      rw [h] at hspec
      obtain ⟨t, ht, hdecl⟩ := hspec
      exact ⟨t, hdecl, by simp [ht]⟩

/-- **The first fault decides.** Without one, declarations with distinct names are the types. -/
theorem typesOf_spec (hnodup : (ds.map (·.name)).Nodup)
    (hdone : ∀ d ∈ ds, ∀ t ∈ done, t.name ≠ d.name) :
    match ds.findSome? fun d => typeFault? d.name d.pattern with
    | some e => typesOf done ds = .error e
    | none => ∃ types, typesOf done ds = .ok types ∧ types.map (·.declaration) = ds := by
  induction ds generalizing done with
  | nil => exact ⟨[], rfl, rfl⟩
  | cons d ds ih =>
      obtain ⟨hnew, hnodup'⟩ := List.nodup_cons.1 hnodup
      obtain ⟨hfree, hdone'⟩ := List.forall_mem_cons.1 hdone
      rw [List.findSome?_cons]
      cases hfault : typeFault? d.name d.pattern with
      | some e => exact typesOf_cons_of_fault hfree hfault
      | none =>
          obtain ⟨t, rfl, hcons⟩ := exists_typesOf_cons hfree hfault
          -- the name of `t` is not declared again
          have hrest := ih hnodup' fun d' hd' => List.forall_mem_append.2
            ⟨hdone' d' hd', List.forall_mem_singleton.2
              fun he => hnew (List.mem_map.2 ⟨d', hd', he.symm⟩)⟩
          rw [hcons]
          dsimp only
          split at hrest
          · next e he =>
              rw [he, hrest]
              rfl
          · next hnone =>
              obtain ⟨types, htypes, hall⟩ := hrest
              rw [hnone, htypes]
              exact ⟨t :: types, rfl, congrArg _ hall⟩

/-- Types none of which is implicit make no registry. -/
lemma ofTypes_of_filter_eq_nil {types : List AttributeType}
    (h : types.filter (·.implicit) = []) : ofTypes types = .error .noImplicit := by
  rw [ofTypes]
  split
  · rfl
  · next t hone => exact nomatch h.symm.trans hone
  · next hnone _ => exact absurd h hnone

/-- Types one of which is implicit make a registry. -/
lemma ofTypes_of_filter_eq_singleton {types : List AttributeType} {t : AttributeType}
    (h : types.filter (·.implicit) = [t]) : ofTypes types = .ok ⟨types, t, h⟩ := by
  rw [ofTypes]
  split
  · next hnone => exact nomatch h.symm.trans hnone
  · next t' hone =>
      cases h.symm.trans hone
      rfl
  · next _ hone => exact absurd h (hone t)

end TypeRegistry

/-! ### Building -/

/-- What is wrong with the first of some names and patterns that is at fault. -/
def firstFault? (declared : List (String × String)) : Option TypeError :=
  declared.findSome? fun d => typeFault? d.1 d.2

/-- Two faults of declarations are not those of a type on its own. -/
lemma firstFault?_ne {declared : List (String × String)} {e : TypeError}
    (h : firstFault? declared = some e) :
    (∀ name, e ≠ .duplicateName name) ∧ ∀ names, e ≠ .severalImplicit names := by
  obtain ⟨d, -, hd⟩ := List.exists_of_findSome?_eq_some h
  rw [typeFault?] at hd
  split at hd
  · split at hd
    · cases hd
      exact ⟨nofun, nofun⟩
    · split at hd
      · split at hd
        · exact nomatch hd
        · cases hd
          exact ⟨nofun, nofun⟩
      · cases hd
        exact ⟨nofun, nofun⟩
  · cases hd
    exact ⟨nofun, nofun⟩

/-- The declarations of names with patterns, a chosen name being implicit. -/
def declarationsOf (declared : List (String × String)) (chosen : Option String) :
    List TypeDeclaration :=
  declared.map fun d => ⟨d.1, d.2, chosen = some d.1⟩

section DeclarationsOf

variable {declared : List (String × String)} {chosen : Option String} {types : List AttributeType}

/-- Declarations with distinct names fail as the first fault, or it is left to see which of their
types are implicit. -/
lemma ofDeclarations_spec (chosen : Option String) (hne : declared ≠ [])
    (hnodup : (declared.map (·.1)).Nodup) :
    match firstFault? declared with
    | some e => TypeRegistry.ofDeclarations (declarationsOf declared chosen) = .error e
    | none => ∃ types, types.map (·.declaration) = declarationsOf declared chosen ∧
        TypeRegistry.ofDeclarations (declarationsOf declared chosen) =
          TypeRegistry.ofTypes types := by
  have hnames : ((declarationsOf declared chosen).map (·.name)).Nodup := by
    rw [declarationsOf, List.map_map]
    exact hnodup
  have hfault : ((declarationsOf declared chosen).findSome? fun d => typeFault? d.name d.pattern) =
      firstFault? declared := by
    rw [declarationsOf, List.findSome?_map]
    rfl
  have hnonempty : (declarationsOf declared chosen).isEmpty = false := by
    rw [declarationsOf, List.isEmpty_map]
    exact List.isEmpty_eq_false_iff.2 hne
  have hspec := TypeRegistry.typesOf_spec hnames fun _ _ _ h => absurd h List.not_mem_nil
  rw [hfault] at hspec
  rw [TypeRegistry.ofDeclarations, hnonempty]
  split at hspec
  · rw [hspec]
    rfl
  · obtain ⟨types, htypes, hall⟩ := hspec
    rw [htypes]
    exact ⟨types, hall, rfl⟩

lemma map_name_of_declarations (h : types.map (·.declaration) = declarationsOf declared chosen) :
    types.map (fun t => (t.name, t.pattern)) = declared := by
  have hpairs := congrArg (List.map fun d => (d.name, d.pattern)) h
  rw [List.map_map, declarationsOf, List.map_map] at hpairs
  exact hpairs.trans (List.map_id _)

lemma implicit_iff_of_declarations
    (h : types.map (·.declaration) = declarationsOf declared chosen) {t : AttributeType}
    (ht : t ∈ types) : t.implicit = true ↔ chosen = some t.name := by
  have hmem : t.declaration ∈ declarationsOf declared chosen := h ▸ List.mem_map_of_mem ht
  obtain ⟨d, -, hd⟩ := List.mem_map.1 hmem
  obtain ⟨hname, -, himplicit⟩ := TypeDeclaration.mk.inj hd
  rw [← himplicit, hname, decide_eq_true_iff]

/-- Without a chosen name, no type is implicit. -/
lemma filter_implicit_eq_nil (h : types.map (·.declaration) = declarationsOf declared none) :
    types.filter (·.implicit) = [] :=
  List.filter_eq_nil_iff.2 fun _ ht himplicit =>
    nomatch (implicit_iff_of_declarations h ht).1 himplicit

/-- With one of distinct names, its type is. -/
lemma exists_filter_implicit {name : String}
    (h : types.map (·.declaration) = declarationsOf declared (some name))
    (hnodup : (declared.map (·.1)).Nodup) (hname : name ∈ declared.map (·.1)) :
    ∃ t, t.name = name ∧ types.filter (·.implicit) = [t] := by
  rw [← map_name_of_declarations h, List.map_map] at hnodup hname
  obtain ⟨t, ht, rfl⟩ := List.mem_map.1 hname
  refine ⟨t, rfl, filter_eq_singleton (hnodup.of_map _) ht fun s hs => ?_⟩
  rw [implicit_iff_of_declarations h hs]
  exact ⟨fun he => (List.inj_on_of_nodup_map hnodup ht hs (Option.some.inj he)).symm,
    fun he => he ▸ rfl⟩

end DeclarationsOf

namespace RegistryBuilder.Reflects

variable {b : RegistryBuilder} {ds : List (String × String)} {chosen : Option String}
  {name : String}

lemma build_of_nil (h : b.Reflects ds chosen) (hnil : lastPatterns ds = []) :
    b.build = .error .noTypes := by
  have hdeclarations : b.declarations = [] := by rw [h.declarations_eq, hnil, List.map_nil]
  rw [build, hdeclarations]
  cases b.implicit <;> rfl

lemma build_of_unknown (h : b.Reflects ds (some name)) (hne : lastPatterns ds ≠ [])
    (hname : name ∉ (lastPatterns ds).map (·.1)) : b.build = .error (.unknownImplicit name) := by
  have hany : ¬ b.declarations.any (·.name == name) = true :=
    fun hany => hname (mem_map_fst_lastPatterns.2 (h.any_name_iff.1 hany))
  have hempty : ¬ b.declarations.isEmpty = true := by
    rw [h.declarations_eq, List.isEmpty_map, List.isEmpty_iff]
    exact hne
  rw [build, h.implicit_eq]
  dsimp only
  rw [if_neg hany, if_neg hempty]

/-- The registry is the one of the declarations, of which that of the chosen name is implicit. -/
lemma build_eq (h : b.Reflects ds chosen)
    (hknown : ∀ name, chosen = some name → name ∈ (lastPatterns ds).map (·.1)) :
    b.build = TypeRegistry.ofDeclarations (declarationsOf (lastPatterns ds) chosen) := by
  rw [build, h.implicit_eq]
  cases chosen with
  | none =>
      dsimp only
      rw [h.declarations_eq]
      rfl
  | some name =>
      have hany := h.any_name_iff.2 (mem_map_fst_lastPatterns.1 (hknown name rfl))
      dsimp only
      rw [if_pos hany, marked, h.declarations_eq, List.map_map]
      refine congrArg _ (List.map_congr_left fun d _ => ?_)
      by_cases hname : name = d.1 <;> simp [hname, eq_comm]

lemma build_of_fault (h : b.Reflects ds chosen)
    (hknown : ∀ name, chosen = some name → name ∈ (lastPatterns ds).map (·.1)) {e : TypeError}
    (hfault : firstFault? (lastPatterns ds) = some e) : b.build = .error e := by
  have hne : lastPatterns ds ≠ [] := by
    rintro hnil
    rw [hnil] at hfault
    exact nomatch hfault
  have hspec := ofDeclarations_spec chosen hne nodup_lastPatterns
  rw [hfault] at hspec
  exact (h.build_eq hknown).trans hspec

lemma build_of_none (h : b.Reflects ds none) (hne : lastPatterns ds ≠ [])
    (hsound : firstFault? (lastPatterns ds) = none) : b.build = .error .noImplicit := by
  have hspec := ofDeclarations_spec none hne nodup_lastPatterns
  rw [hsound] at hspec
  obtain ⟨types, hall, htypes⟩ := hspec
  rw [h.build_eq nofun, htypes]
  exact TypeRegistry.ofTypes_of_filter_eq_nil (filter_implicit_eq_nil hall)

lemma exists_build (h : b.Reflects ds (some name)) (hname : name ∈ (lastPatterns ds).map (·.1))
    (hsound : firstFault? (lastPatterns ds) = none) :
    ∃ r, b.build = .ok r ∧ r.types.map (fun t => (t.name, t.pattern)) = lastPatterns ds ∧
      (∀ t ∈ r.types, t.implicit = true ↔ t.name = name) ∧ r.implicitType.name = name := by
  have hne : lastPatterns ds ≠ [] := fun hnil => by simp [hnil] at hname
  have hspec := ofDeclarations_spec (some name) hne nodup_lastPatterns
  rw [hsound] at hspec
  obtain ⟨types, hall, htypes⟩ := hspec
  obtain ⟨t, ht, hfilter⟩ := exists_filter_implicit hall nodup_lastPatterns hname
  have hknown : ∀ n, some name = some n → n ∈ (lastPatterns ds).map (·.1) := by
    rintro n ⟨⟩
    exact hname
  rw [h.build_eq hknown, htypes, TypeRegistry.ofTypes_of_filter_eq_singleton hfilter]
  refine ⟨_, rfl, map_name_of_declarations hall, fun s hs => ?_, ht⟩
  rw [implicit_iff_of_declarations hall hs, Option.some_inj, eq_comm]

/-- Two faults of declarations never come up. -/
lemma build_ne (h : b.Reflects ds chosen) {e : TypeError} (hbuild : b.build = .error e) :
    (∀ name, e ≠ .duplicateName name) ∧ ∀ names, e ≠ .severalImplicit names := by
  by_cases hne : lastPatterns ds = []
  · cases hbuild.symm.trans (h.build_of_nil hne)
    exact ⟨nofun, nofun⟩
  by_cases hknown : ∀ name, chosen = some name → name ∈ (lastPatterns ds).map (·.1)
  · cases hfault : firstFault? (lastPatterns ds) with
    | some e' =>
        cases hbuild.symm.trans (h.build_of_fault hknown hfault)
        exact firstFault?_ne hfault
    | none =>
        cases chosen with
        | none =>
            cases hbuild.symm.trans (h.build_of_none hne hfault)
            exact ⟨nofun, nofun⟩
        | some name =>
            obtain ⟨r, hr, -⟩ := h.exists_build (hknown name rfl) hfault
            exact nomatch hbuild.symm.trans hr
  · push Not at hknown
    obtain ⟨name, rfl, hname⟩ := hknown
    cases hbuild.symm.trans (h.build_of_unknown hne hname)
    exact ⟨nofun, nofun⟩

end RegistryBuilder.Reflects

/-- **What a builder builds.** After any calls on one of the builders to start from, there is no
registry if nothing is declared, if the name chosen last is not declared, if a type is at fault,
where the first one decides, or if no name is chosen, and the first of these reasons is the fault.
Otherwise the registry has each name once, in the order in which they were declared first and with
the pattern declared last, and the only implicit type is the one chosen last. Two types of one name
and several implicit types never come up. -/
theorem BuilderCall.build_afterAll (start : BuilderStart) (calls : List BuilderCall) :
    let declared := lastPatterns (start.patterns ++ calls.filterMap (·.declared?))
    let chosen := (calls.filterMap (·.chosen?)).getLast?.or start.implicit?
    let known := ∀ name, chosen = some name → name ∈ declared.map (·.1)
    let built := (afterAll start.builder calls).build
    (declared = [] → built = .error .noTypes) ∧
    (declared ≠ [] → ∀ name, chosen = some name → name ∉ declared.map (·.1) →
      built = .error (.unknownImplicit name)) ∧
    (known → ∀ e, firstFault? declared = some e → built = .error e) ∧
    (declared ≠ [] → firstFault? declared = none → chosen = none → built = .error .noImplicit) ∧
    (firstFault? declared = none → ∀ name, chosen = some name → name ∈ declared.map (·.1) →
      ∃ r, built = .ok r ∧ r.types.map (fun t => (t.name, t.pattern)) = declared ∧
        (∀ t ∈ r.types, t.implicit = true ↔ t.name = name) ∧ r.implicitType.name = name) ∧
    (∀ name, built ≠ .error (.duplicateName name)) ∧
    ∀ names, built ≠ .error (.severalImplicit names) := by
  intro declared chosen known built
  have h : (afterAll start.builder calls).Reflects (start.patterns ++ _) chosen :=
    (RegistryBuilder.reflects_start start).afterAll calls
  refine ⟨h.build_of_nil, fun hne name hchosen => ?_, fun hknown e => h.build_of_fault hknown,
    fun hne hsound hchosen => ?_, fun hsound name hchosen hname => ?_, fun name hbuild => ?_,
    fun names hbuild => ?_⟩
  · rw [hchosen] at h
    exact h.build_of_unknown hne
  · rw [hchosen] at h
    exact h.build_of_none hne hsound
  · rw [hchosen] at h
    exact h.exists_build hname hsound
  · exact (h.build_ne hbuild).1 name rfl
  · exact (h.build_ne hbuild).2 names rfl

/-- **A group that reports nothing is not noticed**, although it is written with a name. It stands
in a repetition that never repeats. In the pattern of a route, a group of the same name may be
around it, and then there are two. -/
theorem BuilderCall.build_of_silentGroup :
    let built := (afterAll BuilderStart.empty.builder
      [.add "t" "(?P<g0>a)\x7b0\x7db", .chooseImplicit "t"]).build
    (built.toOption.map fun r => r.types.map fun t => (t.name, t.pattern, t.implicit)) =
        some [("t", "(?P<g0>a)\x7b0\x7db", true)] ∧
      (Phrase.ofText? "(?P<g0>a)\x7b0\x7db".toList).map (·.writtenNames) = some ["g0"] ∧
      Phrase.ofText? "(?P<g0>(?P<g0>a)\x7b0\x7db)".toList = none :=
  ⟨by decide +kernel, by decide +kernel, by decide +kernel⟩

/-- A type that is declared again keeps its place. The name chosen last counts, wherever it is
declared. -/
example :
    let b := BuilderCall.afterAll .builtIn [.chooseImplicit "any", .chooseImplicit "slug",
      .add "digit" "[0-7]", .add "slug" "[a-z-]+", .add "digit" "[01]"]
    (b.build.toOption.map fun r => (r.types.drop 4).map fun t => (t.name, t.pattern, t.implicit)) =
      some [("digit", "[01]", false), ("number", "[0-9]+", false), ("word", "[a-zA-Z0-9_]+", false),
        ("slug", "[a-z-]+", true)] := by
  decide +kernel

end HttpRouting
