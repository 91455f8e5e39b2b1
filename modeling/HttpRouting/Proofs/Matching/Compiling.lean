/-
Which tables compile.

* `RouteTable.IsEmbeddable`: the patterns of the types in a table may stand in other patterns;
* `RouteTable.exists_balanced`: the texts of a strategy are balanced texts between anchors, and no
  two of their groups have the same name;
* `Matcher.exists_compile_iff`: a strategy is refused exactly if one of its texts is;
* `Path.weight_le`: the weight of a path from its optional rests, groups and repetitions;
* `Matcher.compile_of_shallow`: no such table is refused whose parts do not nest too deep;
* `remarkTable`, `compile_remarkTable`: one with a comment in the pattern of a type.
-/
import HttpRouting.AttributeType.Builder
import HttpRouting.Proofs.Matching.Balance

namespace HttpRouting

variable {α : Type}

/-! ### Texts -/

namespace RouteTable

variable {t : RouteTable α} {s : Strategy} {text : List Char}

lemma eq_of_mem_patternTexts_single (h : text ∈ t.patternTexts .singlePattern) :
    text = anchored (alternativeGroup (t.marked.map (·.text))) := by
  have htexts : (routeAlternatives 0 0 t.routes).map (·.1) = t.marked.map (·.text) := by
    rw [routeAlternatives_eq_map, List.map_map]
    rfl
  rw [patternTexts, htexts] at h
  split at h
  · exact nomatch h
  · exact List.mem_singleton.1 h

lemma eq_of_mem_patternTexts_tree (h : text ∈ t.patternTexts .treePattern) :
    text = anchored ("(?:".toList ++ alternation (forestAlternatives 0 (Forest.ofTable t)).1 ++
      [')']) := by
  rw [patternTexts] at h
  split at h
  · exact nomatch h
  · exact List.mem_singleton.1 h

/-- Only routes make texts. -/
lemma exists_mem_of_mem_patternTexts (h : text ∈ t.patternTexts s) : ∃ r, r ∈ t.routes := by
  refine List.exists_mem_of_ne_nil _ fun hnil => ?_
  have hnone : t.patternTexts s = [] := by
    cases s <;> simp [patternTexts, hnil, routeAlternatives, Forest.ofTable, Forest.insertAll,
      forestAlternatives]
  rw [hnone] at h
  cases h

/-- The patterns of all types in a table are ones on their own, and no group in them is written with
a name. -/
def IsEmbeddable (t : RouteTable α) : Prop :=
  ∀ r ∈ t.routes, r.registry.IsEmbeddable

instance (t : RouteTable α) : Decidable t.IsEmbeddable :=
  inferInstanceAs (Decidable (∀ r ∈ t.routes, r.registry.IsEmbeddable))

/-- **The texts of a strategy are balanced texts between anchors**, and no two of their groups have
the same name. -/
theorem exists_balanced (htypes : t.IsEmbeddable) {w : Nat} (hw : 3 ≤ w)
    (h : ∀ r ∈ t.routes, r.path.weight r.registry ≤ w) (htext : text ∈ t.patternTexts s) :
    ∃ cs names, text = anchored cs ∧ Balanced cs (w + 9 + 3 * t.forkDepth s) names ∧
      names.Nodup := by
  have hnodup : (t.marked.flatMap MarkedRoute.names).Nodup := nodup_names_markedFrom
  cases s with
  | multiPattern =>
      obtain ⟨r, hr, rfl⟩ := List.mem_map.1 htext
      have hpath := balanced_pathNotation (htypes r hr) r.path 0
      exact ⟨_, _, rfl, hpath.mono (by have := h r hr; omega), nodup_groupNamesFrom _ _⟩
  | singlePattern =>
      have htexts : BalancedEach w (t.marked.map (·.text)) (t.marked.flatMap MarkedRoute.names) :=
        balancedEach_markedFrom htypes h hw
      exact ⟨_, _, eq_of_mem_patternTexts_single htext, htexts.alternativeGroup.mono (by omega),
        hnodup⟩
  | treePattern =>
      have hsegments : ∀ c ∈ (Forest.ofTable t).chains, ∀ s ∈ c.1, s.IsBalanced w := by
        intro c hc
        rw [Forest.chains_ofTable] at hc
        obtain ⟨⟨r, i⟩, hr, rfl⟩ := List.mem_map.1 hc
        have hmem := List.fst_mem_of_mem_zipIdx hr
        exact isBalanced_ofPath (htypes r hmem) (h r hmem)
      have htexts := balancedEach_forestAlternatives hw hsegments 0
      have hnames : (chainsFrom 0 (Forest.ofTable t).chains).flatMap MarkedChain.names =
          t.marked.flatMap MarkedRoute.names := by
        rw [chainsFrom_chains_ofTable, List.flatMap_map]
        exact List.flatMap_congr fun x _ => x.names_chain
      rw [hnames] at htexts
      have hbody := (htexts.alternation (by omega)).group opens_plain
      refine ⟨_, _, eq_of_mem_patternTexts_tree htext, hbody.mono ?_, hnodup⟩
      rw [forkDepth]
      split <;> omega
  | linear | tree => exact nomatch htext

end RouteTable

/-! ### Matchers -/

lemma isSome_ofBody?_iff {body : Option (List Char)} {bindings : List (List Binding)}
    {methods : List Method} :
    (MarkedPattern.ofBody? body bindings methods).isSome = true ↔
      ∀ cs ∈ body, (Pattern.parse? (anchored cs)).isSome = true := by
  cases body <;> simp [MarkedPattern.ofBody?]

/-- A strategy is refused exactly if one of its texts is. -/
theorem Matcher.exists_compile_iff {t : RouteTable α} {s : Strategy} :
    (∃ m, Matcher.compile t s = .ok m) ↔
      ∀ text ∈ t.patternTexts s, (Pattern.parse? text).isSome = true := by
  have hcompile : (∃ m, Matcher.compile t s = .ok m) ↔ (Matcher.compile? t s).isSome = true := by
    rw [Matcher.compile]
    cases Matcher.compile? t s <;> simp
  rw [hcompile]
  cases s with
  | multiPattern =>
      simp only [Matcher.compile?, PatternPerRoute.ofTable?, Option.isSome_map, isSome_mapM,
        RoutePattern.ofRoute?, RouteTable.patternTexts, List.forall_mem_map]
  | singlePattern =>
      rw [Matcher.compile?, Option.isSome_map, MarkedPattern.ofTable?, isSome_ofBody?_iff,
        RouteTable.patternTexts]
      cases routeAlternatives 0 0 t.routes <;> simp
  | treePattern =>
      rw [Matcher.compile?, Option.isSome_map, MarkedPattern.ofForest?, isSome_ofBody?_iff,
        RouteTable.patternTexts]
      cases (forestAlternatives 0 (Forest.ofTable t)).1 <;> simp
  | linear | tree => simp [Matcher.compile?, RouteTable.patternTexts]

lemma Matcher.compile_eq_error {t : RouteTable α} {s : Strategy} {text : List Char}
    (h : text ∈ t.patternTexts s) (hnone : Phrase.ofText? text = none) :
    Matcher.compile t s = .error ⟨s⟩ := by
  rw [Matcher.compile]
  cases hm : Matcher.compile? t s with
  | none => rfl
  | some m =>
      have hall := Matcher.exists_compile_iff.1 ⟨m, by rw [Matcher.compile, hm]⟩ text h
      rw [Pattern.parse?, hnone] at hall
      cases hall

/-! ### Weights -/

/-- A type weighs three for each group, the one around it included, and one for each repetition. -/
lemma AttributeType.nesting_le (t : AttributeType) :
    t.nesting 3 1 ≤ 3 * t.groupDepth + t.roundDepth + 3 := by
  obtain ⟨p, hp, -⟩ := t.exists_probe
  have hle := Phrase.nesting_le 3 1 p
  simp only [groupDepth, roundDepth, nesting, hp, Option.map_some, Option.getD_some]
  omega

/-- A path weighs four for each optional rest or group, the one around a type included, and one for
each repetition. -/
lemma Path.weight_le (registry : TypeRegistry) (p : Path) :
    p.weight registry ≤ 4 * p.nesting 1 AttributeType.groupDepth registry +
      p.nesting 0 AttributeType.roundDepth registry + 3 := by
  induction p with
  | empty => exact Nat.zero_le _
  | literal text next ih => exact ih
  | attr name typeName next ih =>
      have htype := (registry.typeOf typeName).nesting_le
      simp only [weight, nesting] at ih ⊢
      omega
  | optional inner ih =>
      simp only [weight, nesting] at ih ⊢
      omega

lemma exists_weight_le (rs : List (Route α)) :
    ∃ w, 3 ≤ w ∧ ∀ r ∈ rs, r.path.weight r.registry ≤ w := by
  induction rs with
  | nil => exact ⟨3, Nat.le_refl 3, fun _ hr => nomatch hr⟩
  | cons r rs ih =>
      obtain ⟨w, hw, hrs⟩ := ih
      refine ⟨max (r.path.weight r.registry) w, hw.trans (Nat.le_max_right _ _),
        List.forall_mem_cons.2 ⟨Nat.le_max_left _ _, fun r' hr => ?_⟩⟩
      exact (hrs r' hr).trans (Nat.le_max_right _ _)

/-! ### Tables that are not too deep -/

namespace Matcher

/-- **No table is refused whose parts do not nest too deep**, if the patterns of its types are ones
on their own and no group in them is written with a name. Every text of a strategy then follows the
notation and names no group twice, however deep it is. A strategy is not refused if optional rests
and groups nest at most 40 deep, repetitions and literals at most 76, and no text is too large. -/
theorem compile_of_shallow {t : RouteTable α} (htypes : t.IsEmbeddable) (s : Strategy) :
    (∀ text ∈ t.patternTexts s, ∃ p, (Token.readAll? text).bind Phrase.ofTokens? = some p ∧
      p.writtenNames.Nodup) ∧
    ((∀ r ∈ t.routes, r.nesting ≤ 40) → (∀ r ∈ t.routes, r.rounds + 3 * t.forkDepth s ≤ 76) →
      (∀ text ∈ t.patternTexts s, ∀ p ∈ Phrase.ofText? text, p.outline.fits = true) →
      ∃ m, compile t s = .ok m) := by
  refine ⟨fun text htext => ?_, fun hnesting hrounds hfits => ?_⟩
  · obtain ⟨w, hw, hroutes⟩ := exists_weight_le t.routes
    obtain ⟨cs, names, rfl, hbalanced, hnodup⟩ :=
      RouteTable.exists_balanced htypes hw hroutes htext
    obtain ⟨p, hp, -, hnames⟩ := hbalanced.exists_ofTokens?
    exact ⟨p, hp, hnames ▸ hnodup⟩
  · refine exists_compile_iff.2 fun text htext => ?_
    obtain ⟨r₀, hr₀⟩ := RouteTable.exists_mem_of_mem_patternTexts htext
    have hforks := hrounds r₀ hr₀
    have hroutes : ∀ r ∈ t.routes, r.path.weight r.registry ≤ 239 - 3 * t.forkDepth s := by
      intro r hr
      have hr40 : r.path.nesting 1 AttributeType.groupDepth r.registry ≤ 40 := hnesting r hr
      have hr76 : r.path.nesting 0 AttributeType.roundDepth r.registry + 3 * t.forkDepth s ≤ 76 :=
        hrounds r hr
      have hle := r.path.weight_le r.registry
      omega
    obtain ⟨cs, names, rfl, hbalanced, hnodup⟩ :=
      RouteTable.exists_balanced htypes (by omega) hroutes htext
    obtain ⟨p, hp, hdepth, hnames⟩ := hbalanced.exists_ofTokens?
    have hsound : p.isSound = true := by
      rw [Phrase.isSound, maxNesting, Bool.and_eq_true, decide_eq_true_eq, decide_eq_true_eq]
      exact ⟨by omega, hnames ▸ hnodup⟩
    have htext' : Phrase.ofText? (anchored cs) = some p := by
      rw [Phrase.ofText?, hp, Option.filter_some, if_pos hsound]
    rw [Pattern.parse?, htext', Option.filter_some, if_pos (hfits _ htext p htext')]
    rfl

/-- The built-in type of any value, and one whose pattern holds a comment. -/
def remarkRegistry : TypeRegistry :=
  (TypeRegistry.ofDeclarations
    [⟨"any", "[^/]+", true⟩, ⟨"remark", "(?x) (a+)? | b # or c)\n", false⟩]).toOption.get
    (by decide +kernel)

/-- Two routes with these types, which begin with the same literal. -/
def remarkTable : RouteTable Unit :=
  (do
    let first ← (RouteTable.empty remarkRegistry).add ⟨"GET", isMethodToken_get⟩
      "/(\x7bx:remark\x7d" ()
    let second ← first.1.add ⟨"PUT", isMethodToken_put⟩ "/([\x7bx\x7d[/\x7by:remark\x7d]]" ()
    return second.1 : Except RouteError (RouteTable Unit)).toOption.get (by decide +kernel)

/-- A literal that holds a mark of the notation, and a type whose comment holds another, are no
obstacle. -/
theorem compile_remarkTable :
    remarkTable.IsEmbeddable ∧ (∀ r ∈ remarkTable.routes, r.nesting ≤ 40) ∧
      ∀ s : Strategy, (∀ r ∈ remarkTable.routes, r.rounds + 3 * remarkTable.forkDepth s ≤ 76) ∧
        (∀ text ∈ remarkTable.patternTexts s, ∀ p ∈ Phrase.ofText? text,
          p.outline.fits = true) ∧
        ∃ m, compile remarkTable s = .ok m := by
  have htypes : remarkTable.IsEmbeddable := by decide +kernel
  have hnesting : ∀ r ∈ remarkTable.routes, r.nesting ≤ 40 := by decide +kernel
  refine ⟨htypes, hnesting, fun s => ?_⟩
  have hrounds : ∀ r ∈ remarkTable.routes, r.rounds + 3 * remarkTable.forkDepth s ≤ 76 := by
    cases s <;> decide +kernel
  have hfits : ∀ text ∈ remarkTable.patternTexts s, ∀ p ∈ Phrase.ofText? text,
      p.outline.fits = true := by
    cases s <;> decide +kernel
  exact ⟨hrounds, hfits, (compile_of_shallow htypes s).2 hnesting hrounds hfits⟩

end Matcher

end HttpRouting
