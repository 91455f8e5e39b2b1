/-
Taking entries at fault out of a file.

* `TableFile.without`: a file without the entries at some places;
* `placeWithout`, `EntryFault.without`: the place of an entry after that, and a fault at this place;
* `index_le_of_mem_registerSound`: the places of faults;
* `registerSound_without`: registering what is left stores the same routes, and finds the other
  entries at fault;
* `TableFile.check_without`: so each entry is at fault by itself.

An entry at fault stores no route and takes no name, so the entries after it meet the same table
with and without it.
-/
import HttpRouting.Proofs.TableFile.Loading

namespace HttpRouting

/-! ### Without some entries -/

/-- The entries but for those at some places, where the first is at the given place. -/
def entriesWithout (places : List Nat) (index : Nat) (es : List TableEntry) : List TableEntry :=
  ((es.zipIdx index).filter fun e => e.2 ∉ places).map (·.1)

/-- A file without the entries at some places. -/
def TableFile.without (f : TableFile) (places : List Nat) : TableFile :=
  { f with entries := entriesWithout places 0 f.entries }

/-- The place that an entry moves to when the entries at some places are taken out: it moves up by
one for each of these before it. -/
def placeWithout (places : List Nat) (index : Nat) : Nat :=
  index - (List.range index).countP (· ∈ places)

/-- A fault of an entry that moves up. -/
def EntryFault.without (fault : EntryFault) (places : List Nat) : EntryFault :=
  { fault with index := placeWithout places fault.index }

section Without

variable {places : List Nat} {index : Nat} {e : TableEntry} {es : List TableEntry}

lemma entriesWithout_cons_of_mem (h : index ∈ places) :
    entriesWithout places index (e :: es) = entriesWithout places (index + 1) es := by
  simp [entriesWithout, List.zipIdx_cons, h]

lemma entriesWithout_cons_of_not_mem (h : index ∉ places) :
    entriesWithout places index (e :: es) = e :: entriesWithout places (index + 1) es := by
  simp [entriesWithout, List.zipIdx_cons, h]

lemma placeWithout_succ_of_mem (h : index ∈ places) :
    placeWithout places (index + 1) = placeWithout places index := by
  simp [placeWithout, List.range_succ, h]

lemma placeWithout_succ_of_not_mem (h : index ∉ places) :
    placeWithout places (index + 1) = placeWithout places index + 1 := by
  have hle : (List.range index).countP (· ∈ places) ≤ index := by
    simpa using List.countP_le_length (p := (· ∈ places)) (l := List.range index)
  simp only [placeWithout, List.range_succ, List.countP_append, List.countP_singleton, h,
    decide_false, Bool.false_eq_true, if_false, Nat.add_zero]
  omega

/-- Entries stay in their order. -/
lemma placeWithout_le {i : Nat} (h : index ≤ i) :
    placeWithout places index ≤ placeWithout places i := by
  induction h with
  | refl => exact Nat.le_refl _
  | @step j _ ih =>
      by_cases hmem : j ∈ places
      · rw [placeWithout_succ_of_mem hmem]
        exact ih
      · rw [placeWithout_succ_of_not_mem hmem]
        exact Nat.le_succ_of_le ih

/-- An entry that stays is found at its new place. -/
lemma getElem?_entriesWithout {i : Nat} (hle : index ≤ i) (hi : i ∉ places) :
    (entriesWithout places index es)[placeWithout places i - placeWithout places index]? =
      es[i - index]? := by
  induction es generalizing index with
  | nil => rfl
  | cons e es ih =>
      rcases Nat.eq_or_lt_of_le hle with rfl | hlt
      · simp [entriesWithout_cons_of_not_mem hi]
      · have hget := ih hlt
        have hplace : placeWithout places (index + 1) ≤ placeWithout places i :=
          placeWithout_le hlt
        have hsub : i - index = i - (index + 1) + 1 := by omega
        rw [hsub, List.getElem?_cons_succ, ← hget]
        by_cases hmem : index ∈ places
        · rw [entriesWithout_cons_of_mem hmem, placeWithout_succ_of_mem hmem]
        · rw [placeWithout_succ_of_not_mem hmem] at hplace ⊢
          have hsub' : placeWithout places i - placeWithout places index =
              placeWithout places i - (placeWithout places index + 1) + 1 := by omega
          rw [entriesWithout_cons_of_not_mem hmem, hsub', List.getElem?_cons_succ]

end Without

/-! ### Registering what is left -/

section Registering

variable {t : RouteTable String} {index : Nat} {es : List TableEntry} {places : List Nat}

/-- Faults are at the places of the entries. -/
lemma index_le_of_mem_registerSound {fault : EntryFault}
    (h : fault ∈ (registerSound t index es).2) : index ≤ fault.index := by
  induction es generalizing t index with
  | nil => exact nomatch h
  | cons e es ih =>
      rw [registerSound] at h
      cases hregister : e.register t with
      | ok t' =>
          rw [hregister] at h
          exact Nat.le_of_succ_le (ih h)
      | error cause =>
          rw [hregister] at h
          rcases List.mem_cons.1 h with rfl | h
          · exact Nat.le_refl index
          · exact Nat.le_of_succ_le (ih h)

/-- **Without some of the entries at fault, the same routes are stored**, and the other entries at
fault are found, at their new places. -/
theorem registerSound_without
    (h : ∀ i ∈ places, index ≤ i → ∃ fault ∈ (registerSound t index es).2, fault.index = i) :
    registerSound t (placeWithout places index) (entriesWithout places index es) =
      ((registerSound t index es).1,
        ((registerSound t index es).2.filter (·.index ∉ places)).map (·.without places)) := by
  induction es generalizing t index with
  | nil => rfl
  | cons e es ih =>
      rw [registerSound] at h ⊢
      cases hregister : e.register t with
      | ok t' =>
          rw [hregister] at h
          dsimp only at h ⊢
          -- the entry is sound, so it is not taken out
          have hkept : index ∉ places := by
            intro hmem
            obtain ⟨fault, hfault, he⟩ := h index hmem (Nat.le_refl index)
            have hle := index_le_of_mem_registerSound hfault
            omega
          rw [entriesWithout_cons_of_not_mem hkept, registerSound, hregister]
          dsimp only
          rw [← placeWithout_succ_of_not_mem hkept]
          exact ih fun i hi hle => h i hi (Nat.le_of_succ_le hle)
      | error cause =>
          rw [hregister] at h
          dsimp only at h ⊢
          have hrest : ∀ i ∈ places, index + 1 ≤ i →
              ∃ fault ∈ (registerSound t (index + 1) es).2, fault.index = i := by
            intro i hi hle
            obtain ⟨fault, hfault, he⟩ := h i hi (Nat.le_of_succ_le hle)
            rcases List.mem_cons.1 hfault with rfl | hfault
            · subst he
              exact absurd hle (Nat.not_succ_le_self index)
            · exact ⟨fault, hfault, he⟩
          by_cases hmem : index ∈ places
          · rw [entriesWithout_cons_of_mem hmem, ← placeWithout_succ_of_mem hmem, ih hrest,
              List.filter_cons_of_neg (by simpa using hmem)]
          · rw [entriesWithout_cons_of_not_mem hmem, registerSound, hregister]
            dsimp only
            rw [← placeWithout_succ_of_not_mem hmem, ih hrest,
              List.filter_cons_of_pos (by simpa using hmem)]
            rfl

end Registering

/-! ### Loading what is left -/

namespace TableFile

variable {f : TableFile} {faults : List EntryFault}

/-- The entries at fault are those of a file whose types make a registry. -/
lemma exists_registerSound_of_check (h : f.check = .error (.entries faults)) :
    ∃ registry, f.registry = .ok registry ∧
      (registerSound (.empty registry) 0 f.entries).2 = faults := by
  cases hregistry : f.registry with
  | error e =>
      rw [check, hregistry] at h
      cases h
  | ok registry =>
      refine ⟨registry, rfl, ?_⟩
      rw [check_of_registry hregistry] at h
      generalize registerSound (.empty registry) 0 f.entries = found at h
      obtain ⟨t, _ | ⟨first, others⟩⟩ := found
      · dsimp only at h
        cases hrouter : Router.ofTable t f.config <;> rw [hrouter] at h <;> cases h
      · cases h
        rfl

/-- **Each entry is at fault by itself.** Without some of the entries at fault, the others are found
with the same names and causes, each at the place to which its entry moves. Without all of them the
file is loaded: its router has the routes of the other entries, or cannot be made of them. -/
theorem check_without (h : f.check = .error (.entries faults)) {places : List Nat}
    (hplaces : ∀ i ∈ places, ∃ fault ∈ faults, fault.index = i) :
    (faults.filter (·.index ∉ places) ≠ [] →
      (f.without places).check =
        .error (.entries ((faults.filter (·.index ∉ places)).map (·.without places)))) ∧
    (∀ fault ∈ faults, fault.index ∉ places →
      (f.without places).entries[(fault.without places).index]? = f.entries[fault.index]?) ∧
    (faults.filter (·.index ∉ places) = [] →
      (∀ faults', (f.without places).check ≠ .error (.entries faults')) ∧
      ∃ t, (f.without places).table = .ok t ∧
        (f.without places).check = (Router.ofTable t f.config).mapError .router) := by
  obtain ⟨registry, hregistry, rfl⟩ := exists_registerSound_of_check h
  have hleft : registerSound (.empty registry) 0 (f.without places).entries = _ :=
    @registerSound_without _ 0 _ places fun i hi _ => hplaces i hi
  have hregistry' : (f.without places).registry = .ok registry := hregistry
  refine ⟨fun hne => ?_, fun fault _ hkept => ?_, fun hnone => ?_⟩
  · obtain ⟨first, others, hothers⟩ := List.exists_cons_of_ne_nil hne
    rw [hothers] at hleft ⊢
    exact check_of_faults hregistry' (congrArg Prod.snd hleft)
  · exact getElem?_entriesWithout (Nat.zero_le _) hkept
  · rw [hnone] at hleft
    generalize (registerSound (.empty registry) 0 f.entries).1 = t at hleft
    have hcheck : (f.without places).check = (Router.ofTable t f.config).mapError .router := by
      rw [check_of_registry hregistry', hleft]
      rfl
    refine ⟨fun faults' hfaults => ?_, t, ?_, hcheck⟩
    · rw [hcheck] at hfaults
      cases hrouter : Router.ofTable t f.config <;> rw [hrouter] at hfaults <;>
        exact nomatch hfaults
    · have hall := registerAll_eq (.empty registry) 0 (f.without places).entries
      rw [hleft] at hall
      rw [table, hregistry']
      simp only [Except.mapError, bind, Except.bind]
      rw [hall]
      rfl

/-- A file with a name that is taken and two definitions that cannot be read. -/
def faultyFile : TableFile where
  entries := [{ name := "a", path := "/x" }, { name := "a", path := "/y/\x7bid\x7d" },
    { name := "b", path := "/z/\x7b\x7d" }, { name := "b", path := "/z" }, { path := "/z[" }]

/-- The faults of its entries. -/
def faultsOfFile : List EntryFault :=
  [⟨1, some "a", .duplicateName "a"⟩,
    ⟨2, some "b", .invalidDefinition "GET" "/z/\x7b\x7d" (.attributeNameMissing 4)⟩,
    ⟨4, none, .invalidDefinition "GET" "/z[" (.unexpectedEnd 3 [']'])⟩]

/-- Without two of the entries at fault, the file has the other fault one place further up. -/
theorem check_without_faultyFile :
    faultyFile.check = .error (.entries faultsOfFile) ∧
      (∀ i ∈ [1, 4], ∃ fault ∈ faultsOfFile, fault.index = i) ∧
      (faultyFile.without [1, 4]).check = .error (.entries
        [⟨1, some "b", .invalidDefinition "GET" "/z/\x7b\x7d" (.attributeNameMissing 4)⟩]) := by
  have hregistry : faultyFile.registry = .ok .default := build_builtIn
  have hcheck : faultyFile.check = .error (.entries faultsOfFile) :=
    check_of_faults hregistry (by decide +kernel)
  have hplaces : ∀ i ∈ [1, 4], ∃ fault ∈ faultsOfFile, fault.index = i := by decide
  exact ⟨hcheck, hplaces, (check_without hcheck hplaces).1 (by decide)⟩

end TableFile

end HttpRouting
