/-
Tables whose patterns nest too deep.

* `ofText?_eq_none_of_spells`: a text that spells something too deep is no phrase;
* `starTable`, `refuses_starTable`: an attribute in several optional rests, which a deep pattern of
  its type makes too deep;
* `ladderTable`, `refuses_ladderTable`: routes of literals in a row, each of which goes on after the
  one before;
* `refuses_deep`: in neither do optional rests and groups nest deep.
-/
import HttpRouting.Proofs.AttributeType.Isolation
import HttpRouting.Proofs.Matching.Compiling

namespace HttpRouting

/-! ### Deep phrases -/

namespace Phrase

variable {p : Phrase} {ps : List Phrase}

lemma depth_le_maxDepth (h : p ∈ ps) : p.depth ≤ maxDepth ps :=
  maxDepth_le_iff.1 (Nat.le_refl _) p h

lemma depth_le_depth_concat (h : p ∈ ps) : p.depth ≤ (concat ps).depth := by
  match ps with
  | [q] =>
      rw [List.mem_singleton.1 h]
      exact Nat.le_refl _
  | _ :: _ :: _ => exact (depth_le_maxDepth h).trans (Nat.le_succ _)

/-- Phrases in a row are deeper than the last of them. -/
lemma depth_lt_depth_append (hne : ps ≠ []) (p : Phrase) :
    p.depth < (concat (ps ++ [p])).depth := by
  obtain ⟨q, ps, rfl⟩ := List.exists_cons_of_ne_nil hne
  obtain ⟨q', qs, he⟩ := List.exists_cons_of_ne_nil (List.concat_ne_nil p ps)
  have hp : p ∈ q :: q' :: qs := by
    rw [← he]
    simp
  rw [List.cons_append, he]
  exact Nat.lt_succ_of_le (depth_le_maxDepth hp)

/-- A fork of two branches is deeper than the second. -/
lemma depth_lt_depth_fork (p q : Phrase) : q.depth < (choice [p, q]).depth :=
  Nat.lt_succ_of_le (depth_le_maxDepth (by simp))

end Phrase

/-- A text that spells something too deep is no phrase. -/
lemma ofText?_eq_none_of_spells {cs : List Char} {items : List Phrase} {p : Phrase}
    (h : Spells cs items) (hp : p ∈ items) (hdeep : maxNesting < p.depth) :
    Phrase.ofText? (anchored cs) = none := by
  cases hq : Phrase.ofText? (anchored cs) with
  | none => rfl
  | some q =>
      obtain rfl := h.anchored.eq_of_ofText? hq
      have hsound := (Option.filter_eq_some_iff.1 hq).2
      rw [Phrase.isSound, Bool.and_eq_true, decide_eq_true_eq] at hsound
      have hmem : p ∈ [.anchor .start] ++ items ++ [.anchor .stop] := by simp [hp]
      have hle := (Phrase.depth_le_depth_concat hmem).trans hsound.1
      exact absurd hle (Nat.not_le_of_lt hdeep)

namespace Matcher

/-- A strategy has one text to read, which is no phrase. -/
def Refuses {α : Type} (t : RouteTable α) (s : Strategy) : Prop :=
  ∃ text, t.patternTexts s = [text] ∧ Phrase.ofText? text = none

lemma Refuses.compile {α : Type} {t : RouteTable α} {s : Strategy} (h : Refuses t s) :
    compile t s = .error ⟨s⟩ := by
  obtain ⟨text, htexts, hnone⟩ := h
  exact compile_eq_error (htexts ▸ List.mem_singleton_self text) hnone

/-- The method of some routes. -/
def depthMethod : Method := ⟨"GET", isMethodToken_get⟩

/-- The phrases of the literals of some routes. -/
def literalItems : List Phrase :=
  "/a".toList.map fun c => .set (.single c) 0

lemma spells_literalItems : Spells (escapeLiteral "/a".toList) literalItems :=
  spells_escapeLiteral _

lemma literalItems_ne_nil : literalItems ≠ [] := by
  rw [literalItems, Ne, List.map_eq_nil_iff]
  decide

/-! ### Deep types -/

/-- An attribute in some optional rests. -/
def starPath : Nat → Path
  | 0 => .attr "x" none .empty
  | n + 1 => .optional (.literal "/a" (starPath n))

lemma nesting_starPath (perOptional : Nat) (ofType : AttributeType → Nat)
    (registry : TypeRegistry) (n : Nat) :
    (starPath n).nesting perOptional ofType registry =
      ofType registry.implicitType + perOptional * n := by
  induction n with
  | zero => exact Nat.max_zero _
  | succ n ih =>
      rw [starPath, Path.nesting, Path.nesting, ih, Nat.mul_succ, Nat.add_assoc]

lemma validate_starPath (registry : TypeRegistry) (n : Nat) :
    (starPath n).validate registry = .ok () := by
  have hpath : (starPath n).attributeNames = ["x"] ∧
      (starPath n).unknownType? registry = none := by
    induction n with
    | zero => exact ⟨rfl, rfl⟩
    | succ n ih => exact ih
  rw [Path.validate, Path.repeatedNames, hpath.1, hpath.2]
  rfl

/-- A table with a route of this path. -/
def starTable (registry : TypeRegistry) (n : Nat) : RouteTable Unit where
  registry := registry
  routes := [⟨depthMethod, (starPath n).render, starPath n, registry, (), none⟩]

/-- Each optional rest is a repeated group of several items. -/
lemma spells_starPath {registry : TypeRegistry} {q : Phrase}
    (hq : Fills registry.implicitType.pattern.toList q) (n : Nat) :
    ∃ p, Spells (pathNotation registry (starPath n) 0) [p] ∧ 3 * n + q.depth < p.depth := by
  induction n with
  | zero =>
      have hgroup := hq.group (opens_groupName 0)
      rw [← namedGroup_eq] at hgroup
      refine ⟨_, hgroup.append spells_nil, ?_⟩
      rw [Phrase.depth]
      omega
  | succ n ih =>
      obtain ⟨p, hp, hdepth⟩ := ih
      have hinner := spells_literalItems.append hp
      refine ⟨_, hinner.fills.optional, ?_⟩
      have hlt := Phrase.depth_lt_depth_append literalItems_ne_nil p
      rw [Phrase.depth, Phrase.depth]
      omega

/-- **An attribute in optional rests is refused** if they are too many for the pattern of its
type. -/
theorem refuses_starTable {registry : TypeRegistry} {q : Phrase}
    (hq : Phrase.ofText? registry.implicitType.pattern.toList = some q) {n : Nat}
    (hdeep : maxNesting ≤ 3 * n + q.depth) {s : Strategy} (hs : s.isPattern = true) :
    Refuses (starTable registry n) s := by
  obtain ⟨p, hp, hdepth⟩ := spells_starPath (registry.implicitType.fills_pattern hq) n
  obtain ⟨items, hitems, -⟩ := means_leafNotation depthMethod 0
  have hgroup := (hp.append hitems).fills.group opens_plain
  have hmem : p ∈ [p] ++ items := by simp
  have hle := Phrase.depth_le_depth_concat hmem
  have hroute : Phrase.ofText? (anchored (alternativeGroup
      [pathNotation registry (starPath n) 0 ++ leafNotation depthMethod 0])) = none := by
    rw [alternativeGroup, bars_singleton]
    refine ofText?_eq_none_of_spells hgroup (List.mem_singleton_self _) ?_
    rw [Phrase.depth]
    omega
  cases s with
  | multiPattern =>
      exact ⟨_, rfl, ofText?_eq_none_of_spells hp (List.mem_singleton_self _) (by omega)⟩
  | singlePattern => exact ⟨_, rfl, hroute⟩
  | treePattern =>
      refine ⟨_, ?_, hroute⟩
      rw [alternativeGroup, bars_singleton]
      cases n with
      | zero =>
          rw [starPath, pathNotation, pathNotation, List.append_nil]
          rfl
      | succ n => rfl
  | linear | tree => exact nomatch hs

/-! ### Literals in a row -/

/-- Some literals in a row. -/
def ladderPath : Nat → Path
  | 0 => .empty
  | n + 1 => .literal "/a" (ladderPath n)

lemma nesting_ladderPath (perOptional : Nat) (ofType : AttributeType → Nat)
    (registry : TypeRegistry) (n : Nat) :
    (ladderPath n).nesting perOptional ofType registry = 0 := by
  induction n with
  | zero => rfl
  | succ n ih => exact ih

lemma validate_ladderPath (registry : TypeRegistry) (n : Nat) :
    (ladderPath n).validate registry = .ok () := by
  have hpath : (ladderPath n).attributeNames = [] ∧
      (ladderPath n).unknownType? registry = none := by
    induction n with
    | zero => exact ⟨rfl, rfl⟩
    | succ n ih => exact ih
  rw [Path.validate, Path.repeatedNames, hpath.1, hpath.2]
  rfl

/-- The route of some literals. -/
def ladderRoute (n : Nat) : Route Unit :=
  ⟨depthMethod, (ladderPath n).render, ladderPath n, .default, (), none⟩

lemma ofPath_ladderRoute (n : Nat) :
    Route.ofPath .default (ladderRoute n).method (ladderRoute n).path (ladderRoute n).handler =
      .ok (ladderRoute n) := by
  simp only [ladderRoute, Route.ofPath, validate_ladderPath]

/-- A table with a route for each number of literals, up to one more than the given number. -/
def ladderTable (n : Nat) : RouteTable Unit where
  registry := .default
  routes := (List.range' 1 (n + 1)).map ladderRoute

/-- The row below the first literal. Each leaf stands beside a literal with a row below it. -/
def ladderForest (index : Nat) : Nat → Forest
  | 0 => .leaf index depthMethod .empty
  | n + 1 => .leaf index depthMethod (.branch (.literal "/a") (ladderForest (index + 1) n) .empty)

/-- The next route goes on after the last one. -/
lemma insert_ladderForest (index n : Nat) :
    (ladderForest index n).insert (index + n + 1) depthMethod
        (Segment.ofPath .default (ladderPath (n + 1))) = ladderForest index (n + 1) := by
  induction n generalizing index with
  | zero => rfl
  | succ n ih =>
      have hnext := ih (index + 1)
      rw [show index + 1 + n + 1 = index + (n + 1) + 1 by omega] at hnext
      rw [ladderForest, Forest.insert, ladderPath, Segment.ofPath, Forest.insert, if_pos rfl, hnext]
      rfl

/-- Further routes go on after the last one, each after the one before. -/
lemma insertAll_ladderForest (m n : Nat) :
    (Forest.branch (.literal "/a") (ladderForest 0 m) .empty).insertAll (m + 1)
      ((List.range' (m + 2) n).map ladderRoute) =
        .branch (.literal "/a") (ladderForest 0 (m + n)) .empty := by
  induction n generalizing m with
  | zero => rfl
  | succ n ih =>
      have hnext : (Forest.branch (.literal "/a") (ladderForest 0 m) .empty).insert (m + 1)
          (ladderRoute (m + 2)).method
          (Segment.ofPath (ladderRoute (m + 2)).registry (ladderRoute (m + 2)).path) =
            .branch (.literal "/a") (ladderForest 0 (m + 1)) .empty := by
        have hbelow := insert_ladderForest 0 m
        rw [Nat.zero_add] at hbelow
        rw [ladderRoute, ladderPath, Segment.ofPath, Forest.insert, if_pos rfl, hbelow]
      have hrest := ih (m + 1)
      rw [show m + 1 + n = m + (n + 1) by omega] at hrest
      rw [List.range'_succ, List.map_cons, Forest.insertAll, hnext, hrest]

lemma ofTable_ladderTable (n : Nat) :
    Forest.ofTable (ladderTable n) = .branch (.literal "/a") (ladderForest 0 n) .empty := by
  have hstart := insertAll_ladderForest 0 n
  rw [Nat.zero_add, Nat.zero_add, Nat.zero_add] at hstart
  rw [Forest.ofTable, ladderTable, List.range'_succ, List.map_cons, Forest.insertAll, ← hstart]
  rfl

/-- The text of a row below a literal. -/
def ladderText (index n : Nat) : List Char :=
  alternation (forestAlternatives 0 (ladderForest index n)).1

/-- After a literal with several trees below it comes a group, which is a fork of rows. -/
lemma spells_ladderText (index n : Nat) :
    ∃ items, Spells (ladderText index n) items ∧
      3 * n < (Phrase.concat (literalItems ++ items)).depth := by
  induction n generalizing index with
  | zero =>
      obtain ⟨leaf, hleaf, -⟩ := means_leafNotation depthMethod index
      exact ⟨leaf, hleaf, Nat.succ_pos _⟩
  | succ n ih =>
      obtain ⟨leaf, hleaf, -⟩ := means_leafNotation depthMethod index
      obtain ⟨items, hitems, hdepth⟩ := ih (index + 1)
      have hrest := spells_literalItems.append hitems
      have hbranches : ∀ branch ∈ [(leafNotation depthMethod index, leaf),
          (escapeLiteral "/a".toList ++ ladderText (index + 1) n, literalItems ++ items)],
          Spells branch.1 branch.2 :=
        List.forall_mem_cons.2 ⟨hleaf, List.forall_mem_singleton.2 hrest⟩
      have hfork : Fills (bars [leafNotation depthMethod index,
          escapeLiteral "/a".toList ++ ladderText (index + 1) n])
          (.choice [.concat leaf, .concat (literalItems ++ items)]) :=
        fills_bars (List.cons_ne_nil _ _) hbranches
      refine ⟨_, hfork.group opens_plain, ?_⟩
      have hbranch := Phrase.depth_lt_depth_fork (.concat leaf) (.concat (literalItems ++ items))
      have hrow := Phrase.depth_lt_depth_append literalItems_ne_nil
        (.group .plain (.choice [.concat leaf, .concat (literalItems ++ items)]))
      rw [Phrase.depth] at hrow
      omega

/-- **Routes of literals are refused if many of them go on after each other.** -/
theorem refuses_ladderTable {n : Nat} (hn : 83 ≤ n) : Refuses (ladderTable n) .treePattern := by
  obtain ⟨items, hitems, hdepth⟩ := spells_ladderText 0 n
  have hgroup := (spells_literalItems.append hitems).fills.group opens_plain
  refine ⟨_, ?_, ofText?_eq_none_of_spells hgroup (List.mem_singleton_self _) ?_⟩
  · rw [RouteTable.patternTexts, ofTable_ladderTable]
    rfl
  · rw [Phrase.depth, maxNesting]
    omega

/-! ### An example of each -/

/-- A pattern that repeats repetitions. -/
def starChars : List Char :=
  'a' :: List.replicate 200 '*'

/-- The type of this pattern. -/
def starType : AttributeType where
  name := "star"
  pattern := String.ofList starChars
  implicit := true
  whole := (Pattern.parse? ('^' :: (['(', '?', ':'] ++ starChars ++ [')']) ++ ['$'])).get
    (by decide +kernel)
  parse_eq := by
    rw [wholeText, groupedText, String.toList_ofList]
    exact (Option.some_get _).symm
  unnamed := by
    rw [groupedText, String.toList_ofList]
    decide +kernel

/-- A registry of this type. -/
def starRegistry : TypeRegistry :=
  ⟨[starType], starType, rfl⟩

lemma toList_pattern_starRegistry : starRegistry.implicitType.pattern.toList = starChars :=
  String.toList_ofList

lemma groupDepth_starRegistry : starRegistry.implicitType.groupDepth = 0 := by
  rw [AttributeType.groupDepth, AttributeType.nesting, groupedText, toList_pattern_starRegistry]
  decide +kernel

lemma exists_phrase_starRegistry :
    ∃ q, Phrase.ofText? starRegistry.implicitType.pattern.toList = some q ∧ 200 ≤ q.depth := by
  have hdeep : (Phrase.ofText? starChars).any fun q => 200 ≤ q.depth := by decide +kernel
  obtain ⟨q, hq, hdepth⟩ := (Option.any_eq_true _ _).1 hdeep
  rw [toList_pattern_starRegistry]
  exact ⟨q, hq, of_decide_eq_true hdepth⟩

/-- **Patterns may nest too deep although optional rests and groups do not.** The type of the first
table is accepted, and so are the routes of both. -/
theorem refuses_deep :
    (TypeRegistry.ofDeclarations [⟨"star", String.ofList starChars, true⟩] = .ok starRegistry ∧
      (∀ r ∈ (starTable starRegistry 40).routes, r.nesting ≤ 40 ∧
        Route.ofPath starRegistry r.method r.path r.handler = .ok r) ∧
      ∀ s : Strategy, s.isPattern = true → Refuses (starTable starRegistry 40) s ∧
        compile (starTable starRegistry 40) s = .error ⟨s⟩) ∧
    (∀ r ∈ (ladderTable 109).routes, r.nesting = 0 ∧ r.rounds = 0 ∧
      Route.ofPath .default r.method r.path r.handler = .ok r) ∧
    Refuses (ladderTable 109) .treePattern ∧
      compile (ladderTable 109) .treePattern = .error ⟨.treePattern⟩ := by
  have hstar : ∀ s : Strategy, s.isPattern = true → Refuses (starTable starRegistry 40) s := by
    obtain ⟨q, hq, hdepth⟩ := exists_phrase_starRegistry
    exact fun s hs => refuses_starTable hq (by rw [maxNesting]; omega) hs
  have hnesting : (starPath 40).nesting 1 AttributeType.groupDepth starRegistry = 40 := by
    rw [nesting_starPath, groupDepth_starRegistry]
  have hladder : Refuses (ladderTable 109) .treePattern := refuses_ladderTable (by decide)
  refine ⟨⟨TypeRegistry.ofDeclarations_singleton (t := starType) (by decide) rfl, ?_,
    fun s hs => ⟨hstar s hs, (hstar s hs).compile⟩⟩, ?_, hladder, hladder.compile⟩
  · refine List.forall_mem_singleton.2 ⟨hnesting.le, ?_⟩
    rw [Route.ofPath, validate_starPath]
  · exact List.forall_mem_map.2 fun n _ =>
      ⟨nesting_ladderPath _ _ _ n, nesting_ladderPath _ _ _ n, ofPath_ladderRoute n⟩

end Matcher

end HttpRouting
