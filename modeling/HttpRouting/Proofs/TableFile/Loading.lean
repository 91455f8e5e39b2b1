/-
The types of a file, and the two ways of loading it.

* `TableFile.registry_spec`: the registry of a file, or the first of its types at fault;
* `TableEntry.run_registerInPlace`: an entry that cannot be registered leaves the table as it was;
* `TableFile.routerInPlace_eq`, `TableFile.checkInPlace_eq`: so the table can be handed on;
* `registerAll_eq`: registering up to the first fault, in terms of registering past it;
* `TableFile.router_of_registry`, `TableFile.check_of_registry`: the routers of a file whose types
  make a registry;
* `TableFile.check_agrees_router`: the two ways make the same router, or fail alike.
-/
import HttpRouting.Proofs.AttributeType.Building
import HttpRouting.Proofs.Route.Calls
import HttpRouting.TableFile.InPlace

namespace HttpRouting

/-! ### The types of a file -/

namespace TableFile

/-- The builder for a file holds the built-in types and those of the file. -/
lemma reflects_types (f : TableFile) :
    (f.types.foldl (fun b (name, pattern) => b.add name pattern) RegistryBuilder.builtIn).Reflects
      (defaultPatterns ++ f.types) (some "any") := by
  have hcalls := (RegistryBuilder.reflects_start .builtIn).afterAll
    (f.types.map fun d => .add d.1 d.2)
  have hdeclared : (f.types.map fun d => BuilderCall.add d.1 d.2).filterMap (·.declared?) =
      f.types := by
    rw [List.filterMap_map]
    exact List.filterMap_some
  have hchosen : (f.types.map fun d => BuilderCall.add d.1 d.2).filterMap (·.chosen?) = [] := by
    rw [List.filterMap_map]
    exact List.filterMap_eq_nil_iff.2 fun _ _ => rfl
  rw [hdeclared, hchosen, BuilderCall.afterAll, List.foldl_map] at hcalls
  exact hcalls

/-- **The types of a file.** It may give built-in types other patterns and declare further types.
The built-in types come first, and `any` is implicit. -/
theorem registry_spec (f : TableFile) :
    match firstFault? (lastPatterns (defaultPatterns ++ f.types)) with
    | some e => f.registry = .error e
    | none => ∃ r, f.registry = .ok r ∧
        r.types.map (fun t => (t.name, t.pattern)) = lastPatterns (defaultPatterns ++ f.types) ∧
        defaultPatterns.map (·.1) <+: r.types.map (·.name) ∧ r.implicitType.name = "any" := by
  have hnames : defaultPatterns.map (·.1) <+:
      (lastPatterns (defaultPatterns ++ f.types)).map (·.1) := by
    have hdistinct : (defaultPatterns.map (·.1)).eraseDups = defaultPatterns.map (·.1) := by
      decide +kernel
    rw [map_fst_lastPatterns, List.map_append, List.eraseDups_append, hdistinct]
    exact List.prefix_append _ _
  have hany : "any" ∈ (lastPatterns (defaultPatterns ++ f.types)).map (·.1) :=
    hnames.subset List.mem_cons_self
  split
  · next e he =>
      refine f.reflects_types.build_of_fault ?_ he
      rintro name ⟨⟩
      exact hany
  · next hsound =>
      obtain ⟨r, hr, htypes, -, himplicit⟩ := f.reflects_types.exists_build hany hsound
      refine ⟨r, hr, htypes, ?_, himplicit⟩
      rw [← htypes, List.map_map] at hnames
      exact hnames

end TableFile

/-! ### One table in place -/

namespace TableEntry

variable {e : TableEntry} {t t' : RouteTable String}

lemma apply_call (e : TableEntry) (method : Method) (t : RouteTable String) :
    (e.call method).apply t =
      (t.add method e.path e.label e.name).map fun added => (added.1, [added.2]) := by
  rw [call]
  cases e.name <;> rfl

/-- The steps of an entry with a fault leave the table as it was. -/
lemma run_registerInPlace_of_error {cause : RouteError} (h : e.register t = .error cause) :
    e.registerInPlace.run t = .error cause t := by
  rw [registerInPlace, EStateM.run_bind]
  rcases bind_eq_error_iff.1 h with hmethod | ⟨method, hmethod, h⟩
  · rw [hmethod]
    rfl
  · rcases bind_eq_error_iff.1 h with hadd | ⟨added, -, h⟩
    · rw [hmethod]
      change (e.call method).inPlace.run t = _
      rw [TableCall.inPlace_eq]
      refine RouteTable.run_atomically_of_error ?_
      rw [apply_call, hadd]
      rfl
    · exact nomatch h

/-- Those of a sound entry append its route. -/
lemma run_registerInPlace_of_ok (h : e.register t = .ok t') :
    ∃ indices, e.registerInPlace.run t = .ok indices t' := by
  obtain ⟨method, hmethod, h⟩ := bind_eq_ok_iff.1 h
  obtain ⟨added, hadd, h⟩ := bind_eq_ok_iff.1 h
  cases h
  refine ⟨[added.2], ?_⟩
  rw [registerInPlace, EStateM.run_bind, hmethod]
  change (e.call method).inPlace.run t = _
  rw [TableCall.inPlace_eq]
  refine RouteTable.run_atomically_of_ok ?_
  rw [apply_call, hadd]
  rfl

end TableEntry

/-- Registering in place up to the first fault is handing the table on. -/
lemma registerAllInPlace_run (t : RouteTable String) (index : Nat) (es : List TableEntry) :
    match registerAll t index es with
    | .ok t' => (registerAllInPlace index es).run t = .ok () t'
    | .error fault => ∃ t', (registerAllInPlace index es).run t = .error fault t' := by
  induction es generalizing t index with
  | nil => rfl
  | cons e es ih =>
      rw [registerAll, registerAllInPlace, EStateM.run_bind, EStateM.run_adaptExcept]
      cases h : e.register t with
      | ok t' =>
          obtain ⟨indices, hrun⟩ := TableEntry.run_registerInPlace_of_ok h
          rw [hrun]
          exact ih t' (index + 1)
      | error cause =>
          rw [TableEntry.run_registerInPlace_of_error h]
          exact ⟨t, rfl⟩

/-- So is registering past the faults. -/
lemma registerSoundInPlace_run (t : RouteTable String) (index : Nat) (es : List TableEntry) :
    (registerSoundInPlace index es).run t =
      ((registerSound t index es).2, (registerSound t index es).1) := by
  induction es generalizing t index with
  | nil => rfl
  | cons e es ih =>
      rw [registerSoundInPlace, registerSound]
      cases h : e.register t with
      | ok t' =>
          obtain ⟨indices, hrun⟩ := TableEntry.run_registerInPlace_of_ok h
          have hattempt : (e.attempt index).run t = ([], t') := by
            rw [StateT.run, TableEntry.attempt, hrun]
          simp only [StateT.run_bind, hattempt, StateT.run_pure, ih]
          rfl
      | error cause =>
          have hattempt : (e.attempt index).run t = ([⟨index, e.name, cause⟩], t) := by
            rw [StateT.run, TableEntry.attempt, TableEntry.run_registerInPlace_of_error h]
          simp only [StateT.run_bind, hattempt, StateT.run_pure, ih]
          rfl

namespace TableFile

/-- **The table in place makes the same router**, up to the first fault. -/
theorem routerInPlace_eq (f : TableFile) : f.routerInPlace = f.router := by
  rw [routerInPlace, router, table]
  cases f.registry.mapError LoadError.types with
  | error e => rfl
  | ok registry =>
      have hrun := registerAllInPlace_run (.empty registry) 0 f.entries
      simp only [bind, Except.bind]
      cases h : registerAll (.empty registry) 0 f.entries with
      | ok t =>
          rw [h] at hrun
          rw [hrun]
          rfl
      | error fault =>
          rw [h] at hrun
          obtain ⟨t, hrun⟩ := hrun
          rw [hrun]
          rfl

/-- **It makes the same router**, or finds the same entries at fault. -/
theorem checkInPlace_eq (f : TableFile) : f.checkInPlace = f.check := by
  rw [checkInPlace, check]
  cases f.registry.mapError LoadError.types with
  | error e => rfl
  | ok registry =>
      simp only [bind, Except.bind]
      rw [registerSoundInPlace_run]
      rcases registerSound (.empty registry) 0 f.entries with ⟨t, _ | _⟩ <;> rfl

end TableFile

/-! ### Up to the first fault, and past it -/

/-- Up to the first fault, entries are registered like past it. -/
lemma registerAll_eq (t : RouteTable String) (index : Nat) (es : List TableEntry) :
    registerAll t index es =
      match (registerSound t index es).2.head? with
      | none => .ok (registerSound t index es).1
      | some fault => .error fault := by
  induction es generalizing t index with
  | nil => rfl
  | cons e es ih =>
      rw [registerAll, registerSound]
      cases e.register t with
      | ok t' => exact ih t' (index + 1)
      | error cause => rfl

namespace TableFile

variable {f : TableFile} {registry : TypeRegistry}

lemma check_of_registry (h : f.registry = .ok registry) :
    f.check = match registerSound (.empty registry) 0 f.entries with
      | (t, []) => (Router.ofTable t f.config).mapError .router
      | (_, faults) => .error (.entries faults) := by
  rw [check, h]
  rfl

lemma check_of_faults (h : f.registry = .ok registry) {fault : EntryFault}
    {faults : List EntryFault}
    (hfaults : (registerSound (.empty registry) 0 f.entries).2 = fault :: faults) :
    f.check = .error (.entries (fault :: faults)) := by
  rw [check_of_registry h]
  generalize registerSound (.empty registry) 0 f.entries = found at hfaults
  obtain ⟨t, _⟩ := found
  obtain rfl : _ = fault :: faults := hfaults
  rfl

lemma router_of_registry (h : f.registry = .ok registry) :
    f.router = match registerSound (.empty registry) 0 f.entries with
      | (t, []) => (Router.ofTable t f.config).mapError .router
      | (_, fault :: _) => .error (.entry fault) := by
  rw [router, table, h]
  simp only [Except.mapError, bind, Except.bind]
  rw [registerAll_eq]
  rcases registerSound (.empty registry) 0 f.entries with ⟨t, _ | _⟩ <;> rfl

/-- **The two ways of loading a file make the same router, or fail alike**, whether the table is
handed on or changed in place. The first of all the entries at fault is the one that the other way
stops at, and types, settings and patterns are at fault for both. -/
theorem check_agrees_router (f : TableFile) :
    (f.checkInPlace = f.check ∧ f.routerInPlace = f.router) ∧
    (∀ r, f.check = .ok r ↔ f.router = .ok r) ∧
    (∀ fault, f.router = .error (.entry fault) ↔
      ∃ faults, f.check = .error (.entries (fault :: faults))) ∧
    (∀ e, f.router = .error (.types e) ↔ f.check = .error (.types e)) ∧
    (∀ e, f.router = .error (.router e) ↔ f.check = .error (.router e)) ∧
    (∀ faults, f.router ≠ .error (.entries faults)) ∧
    (∀ fault, f.check ≠ .error (.entry fault)) ∧ f.check ≠ .error (.entries []) := by
  refine ⟨⟨f.checkInPlace_eq, f.routerInPlace_eq⟩, ?_⟩
  cases hregistry : f.registry with
  | error e =>
      have hcheck : f.check = .error (.types e) := by
        rw [check, hregistry]
        rfl
      have hrouter : f.router = .error (.types e) := by
        rw [router, table, hregistry]
        rfl
      simp [hcheck, hrouter]
  | ok registry =>
      rw [check_of_registry hregistry, router_of_registry hregistry]
      rcases registerSound (.empty registry) 0 f.entries with ⟨t, _ | ⟨fault, faults⟩⟩
      · -- the router is made of the same table, and nothing but this can fail
        dsimp only
        cases Router.ofTable t f.config <;> simp [Except.mapError]
      · simp

end TableFile

end HttpRouting
