/-
The texts of patterns are balanced.

* `Balanced`: a text whose groups are closed wherever it stands, with its weight and their names;
* `Balanced.exists_ofTokens?`: between anchors it is a phrase with these names;
* `TypeRegistry.IsEmbeddable`: the patterns of its types may stand in other patterns;
* `balanced_attributeNotation`: the notation of an attribute of such a type is balanced;
* `balanced_pathNotation`, `balanced_leafNotation`: so are those of a path and of an end;
* `BalancedEach`: texts that are balanced one by one;
* `balancedEach_forestAlternatives`: the texts of a forest are;
* `nodup_names_markedFrom`: the groups of a table have different names.

A type is embeddable if its pattern is one on its own and no group in it is written with a name.
-/
import HttpRouting.Matching.Nesting
import HttpRouting.Proofs.Matching.Represents
import HttpRouting.Proofs.Regex.Nesting

namespace HttpRouting

/-! ### Balanced texts -/

/-- A text whose groups are closed wherever it stands, and which leaves the mode as it was. Nothing
in it is heavier than `n`, and the groups have the given names. -/
structure Balanced (cs : List Char) (n : Nat) (names : List String) : Prop where
  plain : Plain cs
  read : ∃ ts,
    (∀ {outer rest}, Plain rest → Token.Reads ⟨{}, outer⟩ (cs ++ rest) ts ⟨{}, outer⟩ rest) ∧
    ts.filterMap Token.groupName? = names ∧ Token.Nests ts n

section Balanced

variable {cs ds : List Char} {m n : Nat} {names names' : List String} {items : List Phrase}
  {kind : GroupKind}

lemma Balanced.mono (h : Balanced cs m names) (hle : m ≤ n) : Balanced cs n names where
  plain := h.plain
  read := by
    obtain ⟨ts, hread, hnames, hnests⟩ := h.read
    exact ⟨ts, hread, hnames, hnests.mono hle⟩

/-- A text that spells phrases is balanced like the phrases. -/
lemma Spells.balanced (h : Spells cs items) :
    Balanced cs (Phrase.weightOfAll items) (items.flatMap Phrase.writtenNames) where
  plain := h.plain
  read := by
    obtain ⟨ts, hread, hp⟩ := h.exists_ofTokens?
    have hnests := Token.nests_of_ofTokens? hp
    rw [Phrase.weight, Phrase.nesting_concat] at hnests
    refine ⟨ts, hread, ?_, hnests⟩
    rw [← Token.writtenNames_of_ofTokens? hp, Phrase.writtenNames_concat]

lemma balanced_nil : Balanced [] 0 [] :=
  spells_nil.balanced

lemma Balanced.append (h : Balanced cs n names) (h' : Balanced ds n names') :
    Balanced (cs ++ ds) n (names ++ names') where
  plain := plain_append h.plain h'.plain
  read := by
    obtain ⟨ts, hread, rfl, hnests⟩ := h.read
    obtain ⟨us, hread', rfl, hnests'⟩ := h'.read
    refine ⟨ts ++ us, fun hp => ?_, List.filterMap_append, hnests.append hnests'⟩
    rw [List.append_assoc]
    exact (hread (plain_append h'.plain hp)).append (hread' hp)

lemma filterMap_groupName?_group (kind : GroupKind) (change : FlagChange) (ts : List Token) :
    (.opening kind change :: (ts ++ [.closing]) : List Token).filterMap Token.groupName? =
      kind.name?.toList ++ ts.filterMap Token.groupName? := by
  have hclosing : [Token.closing].filterMap Token.groupName? = [] := rfl
  rw [List.filterMap_cons, List.filterMap_append, hclosing, List.append_nil]
  cases kind <;> rfl

/-- What tokens a group with a balanced text is made of. -/
lemma Balanced.exists_reads_group (h : Balanced ds n names) (hopens : Opens cs kind) :
    ∃ ts, (∀ outer rest, Token.Reads ⟨{}, outer⟩ (cs ++ ds ++ [')'] ++ rest)
        (.opening kind {} :: (ts ++ [.closing])) ⟨{}, outer⟩ rest) ∧
      ts.filterMap Token.groupName? = names ∧ Token.Nests ts n := by
  obtain ⟨ts, hread, hnames, hnests⟩ := h.read
  refine ⟨ts, fun outer rest => hopens.reads_group ?_, hnames, hnests⟩
  exact (hread (by simp [Plain])).append (Token.reads_closing rfl)

/-- A group weighs three more than what it holds. -/
lemma Balanced.group (h : Balanced ds n names) (hopens : Opens cs kind) :
    Balanced (cs ++ ds ++ [')']) (n + 3) (kind.name?.toList ++ names) where
  plain := by
    rw [List.append_assoc]
    exact hopens.plain_append _
  read := by
    obtain ⟨ts, hread, rfl, hnests⟩ := h.exists_reads_group hopens
    exact ⟨_, fun _ => hread _ _, filterMap_groupName?_group kind {} ts, hnests.group kind {}⟩

/-- A group that may be left out weighs four more than what it holds. -/
lemma Balanced.optional (h : Balanced cs n names) :
    Balanced (optionalNotation cs) (n + 4) names where
  plain := by
    rw [optionalNotation, List.append_assoc]
    exact opens_plain.plain_append _
  read := by
    obtain ⟨ts, hread, rfl, hnests⟩ := h.exists_reads_group opens_plain
    refine ⟨.opening .plain {} :: (ts ++ [.closing]) ++ [.repetition 0 (some 1) false],
      fun {outer rest} hp => ?_, ?_, hnests.repeated .plain {} 0 (some 1) false⟩
    · have hall := (hread outer ('?' :: rest)).append (.cons (Token.read?_optional hp) rfl .nil)
      simpa [optionalNotation] using hall
    · rw [List.filterMap_append, filterMap_groupName?_group]
      exact List.append_nil _

/-- Texts between bars. -/
lemma Balanced.bar (h : Balanced cs n names) (h' : Balanced ds n names') :
    Balanced (cs ++ '|' :: ds) n (names ++ names') := by
  have hbar : Balanced ['|'] n [] := by
    refine ⟨by simp [Plain], [.bar], fun _ => Token.reads_bar rfl _, rfl, ?_⟩
    exact Token.nests_bar.mono (Nat.zero_le n)
  exact h.append (hbar.append h')

/-- **A balanced text between anchors is a phrase**, with the names of its groups, and hardly deeper
than its weight. -/
theorem Balanced.exists_ofTokens? (h : Balanced cs n names) :
    ∃ p, (Token.readAll? (anchored cs)).bind Phrase.ofTokens? = some p ∧ p.depth ≤ n + 2 ∧
      p.writtenNames = names := by
  have hstart : Balanced ['^'] n [] := spells_caret.balanced.mono (Nat.zero_le n)
  have hstop : Balanced ['$'] n [] := spells_dollar.balanced.mono (Nat.zero_le n)
  obtain ⟨ts, hread, hnames, hnests⟩ := ((hstart.append h).append hstop).read
  have hreads : Token.Reads {} (anchored cs ++ []) ts {} [] := hread (by simp [Plain])
  rw [List.append_nil] at hreads
  obtain ⟨p, hp, hdepth, hgroups⟩ := hnests.exists_ofTokens?
  refine ⟨p, ?_, hdepth, ?_⟩
  · rw [Token.readAll?_eq_some_iff.2 ⟨_, _, hreads, rfl⟩, Option.bind_some, hp]
  · rw [hgroups, hnames]
    simp

end Balanced

/-! ### Attributes -/

/-- The pattern of a type is one on its own, and no group in it is written with a name. -/
def AttributeType.IsEmbeddable (t : AttributeType) : Prop :=
  t.StandsAlone ∧ ∀ p ∈ Phrase.ofText? t.pattern.toList, p.writtenNames = []

instance (t : AttributeType) : Decidable t.IsEmbeddable :=
  inferInstanceAs (Decidable (_ ∧ ∀ p ∈ Phrase.ofText? t.pattern.toList, p.writtenNames = []))

/-- So are the patterns of all types of a registry. -/
def TypeRegistry.IsEmbeddable (r : TypeRegistry) : Prop :=
  ∀ t ∈ r.types, t.IsEmbeddable

instance (r : TypeRegistry) : Decidable r.IsEmbeddable :=
  inferInstanceAs (Decidable (∀ t ∈ r.types, t.IsEmbeddable))

/-- The phrase of a pattern fills a group, and weighs three less than the group in which the
registry probes it. -/
lemma AttributeType.StandsAlone.exists_nesting {t : AttributeType} (h : t.StandsAlone) (g r : Nat) :
    ∃ p, Phrase.ofText? t.pattern.toList = some p ∧ Fills t.pattern.toList p ∧
      t.nesting g r = p.nesting g r + g := by
  obtain ⟨p, hp, hfills, -, -⟩ := h.exists_fills
  obtain ⟨q, hq, -⟩ := t.exists_probe
  refine ⟨p, hp, hfills, ?_⟩
  rw [nesting, hq, (hfills.group opens_plain).eq_of_ofText? hq]
  rfl

/-- **The notation of an attribute is balanced.** -/
theorem balanced_attributeNotation {type : AttributeType} (h : type.IsEmbeddable) (n : Nat) :
    Balanced (attributeNotation type n) (type.nesting 3 1) [groupName n] := by
  obtain ⟨p, hp, hfills, hnesting⟩ := h.1.exists_nesting 3 1
  have hgroup := (hfills.group (opens_groupName n)).balanced
  rw [attributeNotation, namedGroup_eq, hnesting]
  simpa [Phrase.weightOfAll, Phrase.nestingOfAll, Phrase.nesting, Phrase.writtenNames, h.2 p hp,
    GroupKind.name?] using hgroup

/-! ### Paths and ends -/

lemma balanced_literal (text : String) : Balanced (escapeLiteral text.toList) 0 [] := by
  have h := (spells_escapeLiteral text.toList).balanced
  have hweight : Phrase.weightOfAll (text.toList.map fun c => .set (.single c) 0) ≤ 0 :=
    Phrase.nestingOfAll_le_iff.2 fun p hp => by
      obtain ⟨c, -, rfl⟩ := List.mem_map.1 hp
      exact Nat.le_refl 0
  have hnames :
      (text.toList.map fun c => Phrase.set (.single c) 0).flatMap Phrase.writtenNames = [] :=
    List.flatMap_eq_nil_iff.2 fun p hp => by
      obtain ⟨c, -, rfl⟩ := List.mem_map.1 hp
      rfl
  rw [hnames] at h
  exact h.mono hweight

/-- The names of the groups of several attributes, which take the numbers from `n` on. -/
def groupNamesFrom (n count : Nat) : List String :=
  (List.range' n count).map groupName

lemma groupNamesFrom_succ (n count : Nat) :
    groupNamesFrom n (count + 1) = groupName n :: groupNamesFrom (n + 1) count := by
  rw [groupNamesFrom, List.range'_succ, List.map_cons]
  rfl

lemma groupNamesFrom_add (n count count' : Nat) :
    groupNamesFrom n (count + count') =
      groupNamesFrom n count ++ groupNamesFrom (n + count) count' := by
  rw [groupNamesFrom, groupNamesFrom, groupNamesFrom, ← List.map_append, List.range'_append_1]

/-- How heavy the notation of a path is. -/
def Path.weight (registry : TypeRegistry) (p : Path) : Nat :=
  p.nesting 4 (AttributeType.nesting 3 1) registry

/-- **The notation of a path is balanced.** -/
theorem balanced_pathNotation {registry : TypeRegistry} (h : registry.IsEmbeddable) (p : Path)
    (n : Nat) : Balanced (pathNotation registry p n) (p.weight registry)
      (groupNamesFrom n p.attributeNames.length) := by
  induction p generalizing n with
  | empty => exact balanced_nil
  | literal text next ih =>
      exact ((balanced_literal text).mono (Nat.zero_le _)).append (ih n)
  | attr name typeName next ih =>
      have htype := balanced_attributeNotation (h _ (registry.typeOf_mem typeName)) n
      rw [Path.attributeNames, List.length_cons, groupNamesFrom_succ]
      exact (htype.mono (Nat.le_max_left _ _)).append ((ih (n + 1)).mono (Nat.le_max_right _ _))
  | optional inner ih => exact (ih n).optional

/-- The end of a route is as heavy as its mark. -/
lemma balanced_leafNotation (m : Method) (index : Nat) :
    Balanced (leafNotation m index) 3 [markName index] := by
  have hmark : Balanced (namedGroup (markName index) []) 3 [markName index] := by
    rw [namedGroup_eq]
    exact balanced_nil.group (opens_markName index)
  have hseparator : Balanced (escapeLiteral separator) 0 [] := balanced_literal "{}"
  exact ((hseparator.append (balanced_literal m.name)).mono (Nat.zero_le 3)).append hmark

/-! ### Texts side by side -/

/-- Texts that are balanced one by one, with the names of all their groups. -/
inductive BalancedEach (n : Nat) : List (List Char) → List String → Prop where
  | nil : BalancedEach n [] []
  | cons {cs : List Char} {texts : List (List Char)} {names names' : List String}
      (first : Balanced cs n names) (others : BalancedEach n texts names') :
      BalancedEach n (cs :: texts) (names ++ names')

namespace BalancedEach

variable {m n : Nat} {texts : List (List Char)} {names : List String}

lemma mono (h : BalancedEach m texts names) (hle : m ≤ n) : BalancedEach n texts names := by
  induction h with
  | nil => exact .nil
  | cons first _ ih => exact .cons (first.mono hle) ih

/-- Texts between bars are balanced together. -/
lemma bars (h : BalancedEach n texts names) : Balanced (bars texts) n names := by
  induction h with
  | nil => exact balanced_nil.mono (Nat.zero_le n)
  | cons first others ih =>
      cases others with
      | nil =>
          rw [bars_singleton, List.append_nil]
          exact first
      | cons _ _ =>
          rw [bars_cons_cons]
          exact first.bar ih

lemma alternativeGroup (h : BalancedEach n texts names) :
    Balanced (alternativeGroup texts) (n + 3) names :=
  h.bars.group opens_plain

/-- Only several texts need a group around them. -/
lemma alternation (h : BalancedEach n texts names) (hn : 3 ≤ n) :
    Balanced (alternation texts) (n + if texts.length ≤ 1 then 0 else 3) names := by
  have hgroup := h.alternativeGroup
  match texts with
  | [] =>
      cases h
      exact BalancedEach.nil.alternativeGroup.mono hn
  | [cs] =>
      cases h with
      | cons first others =>
          cases others
          rw [List.append_nil]
          exact first
  | _ :: _ :: _ =>
      rw [if_neg (by simp)]
      exact hgroup

end BalancedEach

/-! ### Ways to leaves -/

/-- The notation of a segment is balanced, whatever number it begins with. -/
def Segment.IsBalanced (w : Nat) (s : Segment) : Prop :=
  ∀ n, Balanced (segmentNotation n s) w (groupNamesFrom n s.groupCount)

/-- The segments of a path are balanced, and not heavier than the path. -/
lemma isBalanced_ofPath {registry : TypeRegistry} (h : registry.IsEmbeddable) {p : Path} {w : Nat}
    (hw : p.weight registry ≤ w) : ∀ s ∈ Segment.ofPath registry p, s.IsBalanced w := by
  induction p with
  | empty => exact fun _ hs => nomatch hs
  | literal text next ih =>
      exact List.forall_mem_cons.2 ⟨fun _ => (balanced_literal text).mono (Nat.zero_le w), ih hw⟩
  | attr name typeName next ih =>
      obtain ⟨htype, hnext⟩ := Nat.max_le.1 hw
      have hmem := h _ (registry.typeOf_mem typeName)
      exact List.forall_mem_cons.2
        ⟨fun n => (balanced_attributeNotation hmem n).mono htype, ih hnext⟩
  | optional inner ih =>
      refine List.forall_mem_singleton.2 fun n => ?_
      exact (balanced_pathNotation h inner n).optional.mono hw

/-- The names of the groups on a way to a leaf. -/
def MarkedChain.names (c : MarkedChain) : List String :=
  groupNamesFrom c.number (groupTotal c.segments) ++ [markName c.index]

section Chains

variable {w n : Nat} {cs : List (List Segment × Nat × Method)}

lemma balanced_chainNotation (index : Nat) (method : Method) {ss : List Segment}
    (h : ∀ s ∈ ss, s.IsBalanced w) (hw : 3 ≤ w) (n : Nat) :
    Balanced (chainNotation index method n ss) w
      (groupNamesFrom n (groupTotal ss) ++ [markName index]) := by
  induction ss generalizing n with
  | nil => exact (balanced_leafNotation method index).mono hw
  | cons s ss ih =>
      obtain ⟨hs, hss⟩ := List.forall_mem_cons.1 h
      rw [groupTotal, groupNamesFrom_add, List.append_assoc]
      exact (hs n).append (ih hss (n + s.groupCount))

lemma balancedEach_chainAlternatives (h : ∀ c ∈ cs, ∀ s ∈ c.1, s.IsBalanced w) (hw : 3 ≤ w) :
    BalancedEach w (chainAlternatives n cs).1 ((chainsFrom n cs).flatMap MarkedChain.names) := by
  induction cs generalizing n with
  | nil => exact .nil
  | cons c cs ih =>
      obtain ⟨hc, hcs⟩ := List.forall_mem_cons.1 h
      exact .cons (balanced_chainNotation c.2.1 c.2.2 hc hw n) (ih hcs)

/-- A literal in front of several ways adds no names. -/
lemma names_chainsFrom_literal (text : String) :
    (chainsFrom n (cs.map fun (ss, e) => (.literal text :: ss, e))).flatMap MarkedChain.names =
      (chainsFrom n cs).flatMap MarkedChain.names := by
  rw [chainsFrom_literal, List.flatMap_map]
  refine List.flatMap_congr fun c _ => ?_
  rw [MarkedChain.names, groupTotal, Segment.groupCount, Nat.zero_add, MarkedChain.names]

end Chains

/-! ### Trees side by side -/

lemma length_forestAlternatives (f : Forest) (n : Nat) :
    (forestAlternatives n f).1.length = f.width := by
  induction f generalizing n with
  | empty => rfl
  | leaf index method right ih => exact congrArg (· + 1) (ih n)
  | branch s below right _ ih =>
      rw [forestAlternatives_branch]
      exact congrArg (· + 1) (ih _)

/-- The text of a branch is balanced. A literal adds a group if several trees are below it, and any
other segment if there are several ways to leaves. -/
lemma balanced_branchAlternative {w n : Nat} (hw : 3 ≤ w) {s : Segment} {below : Forest}
    (h : ∀ c ∈ below.chains.map fun (ss, e) => (s :: ss, e), ∀ s ∈ c.1, s.IsBalanced w)
    (hbelow : BalancedEach (w + 3 + 3 * below.forkDepth) (forestAlternatives n below).1
      ((chainsFrom n below.chains).flatMap MarkedChain.names)) (right : Forest) :
    Balanced (branchAlternative n s below).1 (w + 3 + 3 * (Forest.branch s below right).forkDepth)
      ((chainsFrom n (below.chains.map fun (ss, e) => (s :: ss, e))).flatMap
        MarkedChain.names) := by
  cases s with
  | literal text =>
      rw [names_chainsFrom_literal]
      have halternation := hbelow.alternation (by omega)
      rw [length_forestAlternatives] at halternation
      refine ((balanced_literal text).mono (Nat.zero_le _)).append (halternation.mono ?_)
      rw [Forest.forkDepth]
      split <;> omega
  | attr name type | optional inner registry =>
      have halternation := (balancedEach_chainAlternatives (n := n) h hw).alternation hw
      refine halternation.mono (Nat.le_add_right_of_le (Nat.add_le_add_left ?_ w))
      split <;> omega

/-- **The texts of a forest are balanced.** -/
theorem balancedEach_forestAlternatives {w : Nat} (hw : 3 ≤ w) {f : Forest}
    (h : ∀ c ∈ f.chains, ∀ s ∈ c.1, s.IsBalanced w) (n : Nat) :
    BalancedEach (w + 3 + 3 * f.forkDepth) (forestAlternatives n f).1
      ((chainsFrom n f.chains).flatMap MarkedChain.names) := by
  induction f generalizing n with
  | empty => exact .nil
  | leaf index method right ih =>
      have hleaf := (balanced_leafNotation method index).mono (n := w + 3 + 3 * right.forkDepth)
        (by omega)
      exact .cons hleaf (ih (List.forall_mem_cons.1 h).2 n)
  | branch s below right ihb ihr =>
      obtain ⟨hs, hchains⟩ := List.forall_mem_append.1 h
      have hsegments : ∀ c ∈ below.chains, ∀ s ∈ c.1, s.IsBalanced w := fun c hc =>
        (List.forall_mem_cons.1 (hs _ (List.mem_map_of_mem hc))).2
      have hbranch := balanced_branchAlternative hw hs (ihb hsegments n) right
      have hright := (ihr hchains (branchAlternative n s below).2.2).mono
        (n := w + 3 + 3 * (Forest.branch s below right).forkDepth) ?_
      · have hnumber := congrArg Prod.snd
          (branchAlternative_snd (s := s) (forestAlternatives_snd below n))
        rw [forestAlternatives_branch, Forest.chains, chainsFrom_append, List.flatMap_append]
        dsimp only at hnumber ⊢
        rw [← hnumber]
        exact .cons hbranch hright
      · have hle : right.forkDepth ≤ (Forest.branch s below right).forkDepth := by
          cases s with
          | literal text => exact Nat.le_max_right _ _
          | attr | optional => exact Nat.le_refl _
        omega

/-! ### Routes side by side -/

/-- The names of the groups of a route. -/
def MarkedRoute.names {α : Type} (x : MarkedRoute α) : List String :=
  groupNamesFrom x.number x.route.path.attributeNames.length ++ [markName x.index]

section Marked

variable {α : Type} {index number w : Nat} {rs : List (Route α)} {name : String}

lemma MarkedRoute.names_chain (x : MarkedRoute α) : x.chain.names = x.names :=
  congrArg (fun count => groupNamesFrom x.number count ++ [markName x.index])
    (groupTotal_ofPath _)

/-- The texts of routes are balanced. -/
lemma balancedEach_markedFrom (htypes : ∀ r ∈ rs, r.registry.IsEmbeddable)
    (h : ∀ r ∈ rs, r.path.weight r.registry ≤ w) (hw : 3 ≤ w) :
    BalancedEach w ((markedFrom index number rs).map (·.text))
      ((markedFrom index number rs).flatMap MarkedRoute.names) := by
  induction rs generalizing index number with
  | nil => exact .nil
  | cons r rs ih =>
      obtain ⟨htype, htypes⟩ := List.forall_mem_cons.1 htypes
      obtain ⟨hr, hrs⟩ := List.forall_mem_cons.1 h
      have hpath := (balanced_pathNotation htype r.path number).mono hr
      exact .cons (hpath.append ((balanced_leafNotation r.method index).mono hw)) (ih htypes hrs)

/-- The names of groups count up, and so do those of marks. -/
lemma mem_names_markedFrom (h : name ∈ (markedFrom index number rs).flatMap MarkedRoute.names) :
    (∃ n, number ≤ n ∧ groupName n = name) ∨ ∃ i, index ≤ i ∧ markName i = name := by
  induction rs generalizing index number with
  | nil => exact nomatch h
  | cons r rs ih =>
      rw [markedFrom, List.flatMap_cons, List.mem_append] at h
      rcases h with h | h
      · rcases List.mem_append.1 h with h | h
        · obtain ⟨n, hn, rfl⟩ := List.mem_map.1 h
          exact .inl ⟨n, (List.mem_range'_1.1 hn).1, rfl⟩
        · exact .inr ⟨index, Nat.le_refl _, (List.mem_singleton.1 h).symm⟩
      · rcases ih h with ⟨n, hn, rfl⟩ | ⟨i, hi, rfl⟩
        · exact .inl ⟨n, by omega, rfl⟩
        · exact .inr ⟨i, by omega, rfl⟩

lemma nodup_groupNamesFrom (n count : Nat) : (groupNamesFrom n count).Nodup :=
  List.Nodup.map (fun _ _ => groupName_inj) List.nodup_range'

/-- **No two groups of a table have the same name.** -/
theorem nodup_names_markedFrom :
    ((markedFrom index number rs).flatMap MarkedRoute.names).Nodup := by
  induction rs generalizing index number with
  | nil => exact List.nodup_nil
  | cons r rs ih =>
      rw [markedFrom, List.flatMap_cons, MarkedRoute.names, List.append_assoc]
      refine (nodup_groupNamesFrom _ _).append ?_ fun name hname hrest => ?_
      · refine List.nodup_cons.2 ⟨fun hmark => ?_, ih⟩
        rcases mem_names_markedFrom hmark with ⟨n, -, hn⟩ | ⟨i, hi, he⟩
        · exact groupName_ne_markName _ _ hn
        · have hindex : i = index := markName_inj he
          omega
      · obtain ⟨m, hm, rfl⟩ := List.mem_map.1 hname
        have hlt : m < number + r.path.attributeNames.length := (List.mem_range'_1.1 hm).2
        rcases List.mem_cons.1 hrest with he | hrest
        · exact groupName_ne_markName _ _ he
        · rcases mem_names_markedFrom hrest with ⟨n, hn, he⟩ | ⟨i, -, he⟩
          · have hnumber : n = m := groupName_inj he
            omega
          · exact groupName_ne_markName _ _ he.symm

end Marked

end HttpRouting
