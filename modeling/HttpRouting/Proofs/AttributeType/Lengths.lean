/-
How much of a text the values of an attribute take.

* `AttributeType.StandsAlone`: the pattern of a type is one on its own;
* `AttributeType.IsSelfContained`: it is one without anchors;
* `AttributeType.regex`, `AttributeType.lengths`: this pattern, and how much its runs take;
* `StandsAlone.meansInside`: the text of the pattern runs like the pattern inside a group;
* `IsSelfContained.accepts_take_iff`: a type accepts what its pattern takes from a longer text.

A pattern such as `a)|(b` is none on its own, but it is one in parentheses. Such types are left out.
-/
import HttpRouting.AttributeType.Basic
import HttpRouting.Proofs.Regex.Meaning

namespace HttpRouting

/-! ### Expressions without groups -/

namespace Regex

variable {r s : Regex}

lemma isGroupFree_times (hr : r.isGroupFree = true) (hs : s.isGroupFree = true) (n : Nat) :
    (times r s n).isGroupFree = true := by
  induction n with
  | zero => exact hs
  | succ n ih => simp [times, isGroupFree, hr, ih]

lemma isGroupFree_optional (hr : r.isGroupFree = true) (lazy : Bool) :
    (optional r lazy).isGroupFree = true := by
  cases lazy <;> simp [optional, isGroupFree, hr]

lemma isGroupFree_upTo (hr : r.isGroupFree = true) (lazy : Bool) (n : Nat) :
    (upTo r lazy n).isGroupFree = true := by
  induction n with
  | zero => rfl
  | succ n ih => exact isGroupFree_optional (by simp [isGroupFree, hr, ih]) lazy

lemma isGroupFree_repeated (hr : r.isGroupFree = true) (least : Nat) (most : Option Nat)
    (lazy : Bool) : (repeated r least most lazy).isGroupFree = true := by
  match most, least with
  | some most, least => exact isGroupFree_times hr (isGroupFree_upTo hr lazy _) least
  | none, 0 => exact isGroupFree_optional (r := plus r lazy) hr lazy
  | none, least + 1 => exact isGroupFree_times (s := plus r lazy) hr hr least

lemma isGroupFree_ofList {rs : List Regex} (h : ∀ r ∈ rs, r.isGroupFree = true) :
    (ofList rs).isGroupFree = true := by
  match rs with
  | [] => rfl
  | [r] => exact h r List.mem_cons_self
  | r :: s :: rs =>
      have hr := h r List.mem_cons_self
      have hrs := isGroupFree_ofList fun r hr => h r (List.mem_cons_of_mem _ hr)
      simp [ofList, isGroupFree, hr, hrs]

lemma isGroupFree_anyOf {rs : List Regex} (h : ∀ s ∈ r :: rs, s.isGroupFree = true) :
    (anyOf r rs).isGroupFree = true := by
  induction rs generalizing r with
  | nil => exact h r List.mem_cons_self
  | cons s rs ih =>
      have hr := h r List.mem_cons_self
      have hrs := ih fun s hs => h s (List.mem_cons_of_mem _ hs)
      simp [anyOf, isGroupFree, hr, hrs]

end Regex

namespace Phrase

mutual

/-- A phrase that names no groups has none that report. -/
lemma isGroupFree_regex : (p : Phrase) → p.groupNames = [] → p.regex.isGroupFree = true
  | empty, _ | switches, _ | set .., _ | anchor _, _ => rfl
  | group .plain body, h | group .numbered body, h => isGroupFree_regex body h
  | group (.named _) _, h => nomatch h
  | repetition body least most lazy, h => by
    unfold groupNames at h
    split at h
    · rfl
    · exact Regex.isGroupFree_repeated (isGroupFree_regex body h) least most lazy
  | row items, h => Regex.isGroupFree_ofList (isGroupFree_regexes items h)
  | fork branches, h => by
    have hall := isGroupFree_regexes branches h
    rw [regex]
    split
    · rfl
    · next r rs hrs =>
        rw [hrs] at hall
        exact Regex.isGroupFree_anyOf hall

lemma isGroupFree_regexes :
    (ps : List Phrase) → allGroupNames ps = [] → ∀ r ∈ regexes ps, r.isGroupFree = true
  | [], _, _, hr => nomatch hr
  | p :: ps, h, r, hr => by
    rw [allGroupNames, List.append_eq_nil_iff] at h
    rw [regexes] at hr
    rcases List.mem_cons.1 hr with rfl | hr
    · exact isGroupFree_regex p h.1
    · exact isGroupFree_regexes ps h.2 r hr

end

end Phrase

/-! ### Types -/

namespace AttributeType

/-- The pattern of a type is one on its own. -/
def StandsAlone (t : AttributeType) : Prop :=
  (Pattern.parse? t.pattern.toList).isSome = true

instance (t : AttributeType) : Decidable t.StandsAlone :=
  inferInstanceAs (Decidable (_ = true))

/-- The pattern of a type is one on its own, and about nothing but the characters that it takes. -/
def IsSelfContained (t : AttributeType) : Prop :=
  ∃ p, Pattern.parse? t.pattern.toList = some p ∧ p.regex.isAnchorFree = true

instance (t : AttributeType) : Decidable t.IsSelfContained :=
  decidable_of_iff ((Pattern.parse? t.pattern.toList).any (·.regex.isAnchorFree) = true)
    (Option.any_eq_true _ _)

/-- The expression of a type whose pattern is one on its own. -/
def regex (t : AttributeType) : Regex :=
  ((Pattern.parse? t.pattern.toList).map (·.regex)).getD .empty

/-- How much of a text the runs of a type take, the preferred run first. -/
def lengths (t : AttributeType) : List Char → List Nat :=
  t.regex.lengths

variable {t : AttributeType}

lemma IsSelfContained.standsAlone (h : t.IsSelfContained) : t.StandsAlone := by
  obtain ⟨p, hp, -⟩ := h
  rw [StandsAlone, hp]
  rfl

lemma IsSelfContained.isAnchorFree (h : t.IsSelfContained) : t.regex.isAnchorFree = true := by
  obtain ⟨p, hp, ha⟩ := h
  rw [regex, hp]
  exact ha

/-- The phrase of a pattern that is one on its own. -/
lemma StandsAlone.exists_phrase (h : t.StandsAlone) :
    ∃ p, Phrase.ofText? t.pattern.toList = some p ∧ p.regex = t.regex := by
  obtain ⟨q, hq⟩ := Option.isSome_iff_exists.1 h
  have hregex : t.regex = q.regex := by rw [regex, hq, Option.map_some, Option.getD_some]
  obtain ⟨p, hp, rfl⟩ := Option.map_eq_some_iff.1 hq
  exact ⟨p, (Option.filter_eq_some_iff.1 hp).1, hregex.symm⟩

/-- What a registry probes is a phrase, which names no groups. -/
lemma exists_probe (t : AttributeType) :
    ∃ p, Phrase.ofText? (groupedText t.pattern) = some p ∧ p.groupNames = [] := by
  obtain ⟨g, hg, hnames⟩ := (Option.any_eq_true _ _).1 t.unnamed
  obtain ⟨p, hp, rfl⟩ := Option.map_eq_some_iff.1 hg
  exact ⟨p, (Option.filter_eq_some_iff.1 hp).1, List.isEmpty_iff.1 hnames⟩

/-- A pattern that is a phrase on its own is the same phrase inside a group. -/
lemma fills_pattern {p : Phrase} (t : AttributeType)
    (h : Phrase.ofText? t.pattern.toList = some p) : Fills t.pattern.toList p := by
  obtain ⟨q, hq, -⟩ := t.exists_probe
  exact fills_of_ofText? h (Option.isSome_of_eq_some hq)

/-- The phrase is the same inside a group, and names no groups. -/
lemma StandsAlone.exists_fills (h : t.StandsAlone) :
    ∃ p : Phrase, Phrase.ofText? t.pattern.toList = some p ∧ Fills t.pattern.toList p ∧
      p.regex = t.regex ∧ p.groupNames = [] := by
  obtain ⟨p, hp, hregex⟩ := h.exists_phrase
  obtain ⟨q, hprobe, hnames⟩ := t.exists_probe
  have hfills := t.fills_pattern hp
  obtain rfl := (hfills.group opens_plain).eq_of_ofText? hprobe
  exact ⟨p, hp, hfills, hregex, hnames⟩

lemma StandsAlone.isGroupFree (h : t.StandsAlone) : t.regex.isGroupFree = true := by
  obtain ⟨p, -, -, hregex, hnames⟩ := h.exists_fills
  rw [← hregex]
  exact p.isGroupFree_regex hnames

/-- The text of the pattern runs like the pattern. -/
lemma StandsAlone.meansInside (h : t.StandsAlone) :
    MeansInside t.pattern.toList t.regex.run := by
  obtain ⟨p, -, hfills, hregex, -⟩ := h.exists_fills
  exact ⟨p, hfills, fun k => by rw [hregex]⟩

/-- Without anchors, it runs through the lengths that it takes. -/
lemma IsSelfContained.follows (h : t.IsSelfContained) : Regex.Follows t.regex.run t.lengths :=
  Regex.run_eq_findSome?_lengths h.isAnchorFree h.standsAlone.isGroupFree

/-- What a pattern takes is part of the text. -/
lemma IsSelfContained.le_length (h : t.IsSelfContained) {cs : List Char} {n : Nat}
    (hn : n ∈ t.lengths cs) : n ≤ cs.length := by
  have hfilter := Regex.filter_lengths_append h.isAnchorFree cs []
  rw [List.append_nil] at hfilter
  rw [lengths, ← hfilter] at hn
  exact of_decide_eq_true (List.mem_filter.1 hn).2

/-- A type accepts the values that some run of its pattern takes as a whole. -/
lemma StandsAlone.accepts_eq (h : t.StandsAlone) (value : List Char) :
    t.accepts value = (t.regex.run atEnd (.ofText value)).isSome := by
  have hmatch := match?_anchored h.meansInside.plain t.parse_eq value
  have hisMatch : t.accepts value = (t.whole.match? value).isSome := by
    rw [accepts, Pattern.isMatch, Pattern.match?, Option.isSome_map]
  rw [hisMatch, hmatch, Option.isSome_map]

/-- A type accepts the values whose length its pattern takes. -/
lemma IsSelfContained.accepts_iff (h : t.IsSelfContained) {value : List Char} :
    t.accepts value = true ↔ value.length ∈ t.lengths value := by
  rw [h.standsAlone.accepts_eq, h.follows, List.findSome?_isSome_iff]
  have hend : ∀ n, (atEnd ((Spot.ofText value).move n)).isSome = true ↔ value.length ≤ n := by
    intro n
    rw [atEnd, Spot.rest_move, Spot.ofText, ← List.drop_eq_nil_iff, ← List.isEmpty_iff]
    split <;> simp_all
  simp only [hend]
  constructor
  · rintro ⟨n, hn, hle⟩
    rwa [Nat.le_antisymm hle (h.le_length hn)]
  · intro hn
    exact ⟨_, hn, Nat.le_refl _⟩

/-- **A type accepts what its pattern takes from a longer text.** -/
theorem IsSelfContained.accepts_take_iff (h : t.IsSelfContained) {cs : List Char} {n : Nat}
    (hn : n ≤ cs.length) : t.accepts (cs.take n) = true ↔ n ∈ t.lengths cs := by
  have hlen : (cs.take n).length = n := List.length_take_of_le hn
  have hfilter := Regex.filter_lengths_append h.isAnchorFree (cs.take n) (cs.drop n)
  rw [List.take_append_drop, hlen] at hfilter
  rw [h.accepts_iff, hlen, lengths, ← hfilter, List.mem_filter]
  simp

end AttributeType

end HttpRouting
