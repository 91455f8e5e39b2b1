/-
How deep a sequence of tokens nests.

* `Phrase.weight`: three for each group and one for each repetition that nest in a phrase;
* `Sketch`: what an assembly says about weights;
* `Assembly.map_sketch_run?`: the sketch of an assembly takes the same steps;
* `Sketch.exists_run?`: what stands before a text does not matter to it;
* `Assembly.IsShallow`: no phrase nests much deeper than its weight;
* `Assembly.writtenNames_run?`: the names that are written are those of the groups that tokens
  open;
* `Token.Nests`: the tokens of a text whose groups are closed, up to some weight;
* `Token.Nests.exists_ofTokens?`: they make a phrase that is hardly deeper.

A sketch knows nothing of switches. So it also fits a text that changes them for what follows.
-/
import HttpRouting.Regex.Assembly
import Mathlib.Order.Nat
import Mathlib.Tactic.Lemma

namespace HttpRouting

/-! ### Weights -/

namespace Phrase

variable {g r n : Nat} {ps qs : List Phrase}

lemma nestingOfAll_le_iff : nestingOfAll g r ps ≤ n ↔ ∀ p ∈ ps, p.nesting g r ≤ n := by
  induction ps with
  | nil => simp [nestingOfAll]
  | cons p ps ih => rw [nestingOfAll, Nat.max_le, ih, List.forall_mem_cons]

lemma nestingOfAll_reverse (ps : List Phrase) :
    nestingOfAll g r ps.reverse = nestingOfAll g r ps :=
  eq_of_forall_ge_iff fun n => by simp only [nestingOfAll_le_iff, List.mem_reverse]

lemma nesting_concat (ps : List Phrase) : (concat ps).nesting g r = nestingOfAll g r ps := by
  match ps with
  | [] => rfl
  | [p] => rw [concat, nestingOfAll, nestingOfAll, Nat.max_zero]
  | _ :: _ :: _ => rfl

lemma nesting_choice (ps : List Phrase) : (choice ps).nesting g r = nestingOfAll g r ps := by
  match ps with
  | [] => rfl
  | [p] => rw [choice, nestingOfAll, nestingOfAll, Nat.max_zero]
  | _ :: _ :: _ => rfl

mutual

/-- Groups and repetitions may be counted apart. -/
lemma nesting_le (g r : Nat) : (p : Phrase) → p.nesting g r ≤ g * p.nesting 1 0 + p.nesting 0 r
  | empty | switches | anchor _ => Nat.zero_le _
  | set _ _ => Nat.le_add_left _ _
  | group _ body => by
      have h := nesting_le g r body
      simp only [nesting, Nat.mul_add]
      omega
  | repetition body _ _ _ => by
      have h := nesting_le g r body
      simp only [nesting, Nat.add_zero]
      omega
  | row items => nestingOfAll_le g r items
  | fork branches => nestingOfAll_le g r branches

lemma nestingOfAll_le (g r : Nat) :
    (ps : List Phrase) → nestingOfAll g r ps ≤ g * nestingOfAll 1 0 ps + nestingOfAll 0 r ps
  | [] => Nat.zero_le _
  | p :: ps => by
      have hp := nesting_le g r p
      have hps := nestingOfAll_le g r ps
      have hgroups := Nat.mul_le_mul_left g (Nat.le_max_left (p.nesting 1 0) (nestingOfAll 1 0 ps))
      have hgroups' := Nat.mul_le_mul_left g
        (Nat.le_max_right (p.nesting 1 0) (nestingOfAll 1 0 ps))
      rw [nestingOfAll, nestingOfAll, nestingOfAll]
      omega

end

/-- Three for each group and one for each repetition that nest in a phrase. A group may hold a fork
of rows, which is as deep as three parts. -/
def weight (p : Phrase) : Nat :=
  p.nesting 3 1

/-- The weight of the heaviest of several phrases. -/
def weightOfAll (ps : List Phrase) : Nat :=
  nestingOfAll 3 1 ps

lemma weightOfAll_cons (p : Phrase) (ps : List Phrase) :
    weightOfAll (p :: ps) = max p.weight (weightOfAll ps) := rfl

/-! ### Depths -/

lemma maxDepth_le_iff : maxDepth ps ≤ n ↔ ∀ p ∈ ps, p.depth ≤ n := by
  induction ps with
  | nil => simp [maxDepth]
  | cons p ps ih => rw [maxDepth, Nat.max_le, ih, List.forall_mem_cons]

lemma depth_concat_le (ps : List Phrase) : (concat ps).depth ≤ maxDepth ps + 1 := by
  match ps with
  | [] => exact Nat.zero_le _
  | [p] => exact (Nat.le_max_left _ _).trans (Nat.le_succ _)
  | _ :: _ :: _ => exact Nat.le_refl _

lemma depth_choice_le (ps : List Phrase) : (choice ps).depth ≤ maxDepth ps + 1 := by
  match ps with
  | [] => exact Nat.zero_le _
  | [p] => exact (Nat.le_max_left _ _).trans (Nat.le_succ _)
  | _ :: _ :: _ => exact Nat.le_refl _

/-! ### Names -/

lemma writtenNames_concat (ps : List Phrase) :
    (concat ps).writtenNames = ps.flatMap writtenNames := by
  match ps with
  | [] => rfl
  | [p] => rw [concat, List.flatMap_singleton]
  | _ :: _ :: _ => exact allWrittenNames_eq_flatMap _

lemma writtenNames_choice (ps : List Phrase) :
    (choice ps).writtenNames = ps.flatMap writtenNames := by
  match ps with
  | [] => rfl
  | [p] => rw [choice, List.flatMap_singleton]
  | _ :: _ :: _ => exact allWrittenNames_eq_flatMap _

end Phrase

/-- The name of the group that a token opens. -/
def Token.groupName? : Token → Option String
  | .opening kind _ => kind.name?
  | _ => none

/-! ### Levels -/

namespace Level

/-- The weight of everything read at a level. -/
def weight (l : Level) : Nat :=
  max (Phrase.weightOfAll l.items) (Phrase.weightOfAll l.branches)

/-- The weight of what a repetition would repeat. -/
def last? (l : Level) : Option Nat :=
  match l.items with
  | p :: _ => if p.isRepeatable then some p.weight else none
  | [] => none

/-- What is read at a level nests hardly deeper than its weight: an item not at all, a branch by the
row that it is. -/
structure IsShallow (l : Level) : Prop where
  items : ∀ p ∈ l.items, p.depth ≤ p.weight
  branches : ∀ p ∈ l.branches, p.depth ≤ p.weight + 1

variable {l : Level}

lemma weight_current (l : Level) : l.current.weight = Phrase.weightOfAll l.items :=
  (Phrase.nesting_concat _).trans (Phrase.nestingOfAll_reverse _)

lemma weight_phrase (l : Level) : l.phrase.weight = l.weight := by
  refine (Phrase.nesting_choice _).trans ((Phrase.nestingOfAll_reverse _).trans ?_)
  exact congrArg (max · (Phrase.weightOfAll l.branches)) l.weight_current

lemma weight_push (l : Level) (p : Phrase) : (l.push p).weight = max l.weight p.weight := by
  simp only [weight, push, Phrase.weightOfAll_cons]
  omega

lemma weight_fork (l : Level) : l.fork.weight = l.weight := by
  simp only [weight, fork, Phrase.weightOfAll_cons, weight_current]
  exact Nat.zero_max _

lemma last?_push (l : Level) {p : Phrase} (hp : p.isRepeatable = true) :
    (l.push p).last? = some p.weight :=
  if_pos hp

/-- A repetition is heavier than what it repeats. -/
lemma map_repeatLast? (l : Level) (least : Nat) (most : Option Nat) (lazy : Bool) :
    (l.repeatLast? least most lazy).map (fun l => (l.weight, l.last?)) =
      l.last?.map fun n => (max l.weight (n + 1), some (n + 1)) := by
  obtain ⟨branches, _ | ⟨p, items⟩, flags⟩ := l
  · rfl
  · have hmax (m n : Nat) :
        max (max (p.weight + 1) m) n = max (max (max p.weight m) n) (p.weight + 1) := by omega
    simp only [repeatLast?, last?]
    split
    · exact congrArg (fun n => some (n, some (p.weight + 1))) (hmax _ _)
    · rfl

lemma repeatLast?_eq {least : Nat} {most : Option Nat} {lazy : Bool} {l' : Level}
    (h : l.repeatLast? least most lazy = some l') :
    ∃ p items lazy', l.items = p :: items ∧
      l' = { l with items := .repetition p least most lazy' :: items } := by
  rw [repeatLast?] at h
  split at h
  · next p items hitems =>
      obtain ⟨-, h⟩ := Option.ite_none_right_eq_some.1 h
      cases h
      exact ⟨p, items, _, hitems, rfl⟩
  · exact nomatch h

lemma IsShallow.current (h : l.IsShallow) : l.current.depth ≤ l.current.weight + 1 := by
  rw [weight_current]
  refine (Phrase.depth_concat_le _).trans (Nat.add_le_add_right ?_ 1)
  refine Phrase.maxDepth_le_iff.2 fun p hp => ?_
  rw [List.mem_reverse] at hp
  exact (h.items p hp).trans (Phrase.nestingOfAll_le_iff.1 (Nat.le_refl _) p hp)

lemma IsShallow.phrase (h : l.IsShallow) : l.phrase.depth ≤ l.phrase.weight + 2 := by
  rw [weight_phrase]
  refine (Phrase.depth_choice_le _).trans (Nat.add_le_add_right (Phrase.maxDepth_le_iff.2 ?_) 1)
  intro p hp
  rcases List.mem_cons.1 (List.mem_reverse.1 hp) with rfl | hp
  · have hcurrent := h.current
    rw [weight_current] at hcurrent
    exact hcurrent.trans (Nat.add_le_add_right (Nat.le_max_left _ _) 1)
  · refine (h.branches p hp).trans (Nat.add_le_add_right ?_ 1)
    exact (Phrase.nestingOfAll_le_iff.1 (Nat.le_refl _) p hp).trans (Nat.le_max_right _ _)

lemma IsShallow.push (h : l.IsShallow) {p : Phrase} (hp : p.depth ≤ p.weight) :
    (l.push p).IsShallow :=
  ⟨List.forall_mem_cons.2 ⟨hp, h.items⟩, h.branches⟩

lemma IsShallow.fork (h : l.IsShallow) : l.fork.IsShallow :=
  ⟨fun _ hp => (nomatch hp), List.forall_mem_cons.2 ⟨h.current, h.branches⟩⟩

lemma isShallow_empty (flags : Flags) : ({ flags } : Level).IsShallow :=
  ⟨fun _ hp => (nomatch hp), fun _ hp => (nomatch hp)⟩

lemma writtenNames_current (l : Level) :
    l.current.writtenNames = l.items.reverse.flatMap Phrase.writtenNames :=
  Phrase.writtenNames_concat _

lemma writtenNames_phrase (l : Level) :
    l.phrase.writtenNames = l.branches.reverse.flatMap Phrase.writtenNames ++
      l.items.reverse.flatMap Phrase.writtenNames := by
  rw [Level.phrase, Phrase.writtenNames_choice, List.reverse_cons, List.flatMap_append,
    List.flatMap_singleton, writtenNames_current]

lemma writtenNames_push (l : Level) (p : Phrase) :
    (l.push p).phrase.writtenNames = l.phrase.writtenNames ++ p.writtenNames := by
  simp only [writtenNames_phrase, push, List.reverse_cons, List.flatMap_append,
    List.flatMap_singleton, List.append_assoc]

lemma writtenNames_fork (l : Level) : l.fork.phrase.writtenNames = l.phrase.writtenNames := by
  simp only [writtenNames_phrase, fork, List.reverse_cons, List.flatMap_append,
    List.flatMap_singleton, writtenNames_current]
  exact List.append_nil _

end Level

/-! ### Sketches -/

/-- What the weights in a text depend on: the weight of the current level, that of what a repetition
would repeat, and those of the levels around it, innermost first. -/
structure Sketch where
  top : Nat := 0
  last : Option Nat := none
  outer : List Nat := []

namespace Sketch

/-- The sketch with one more item. -/
def push (s : Sketch) (n : Nat) : Sketch :=
  { s with top := max s.top n, last := some n }

/-- The effect of one token. A group weighs three more than what it holds, and a repetition one more
than what it repeats. -/
def step? (s : Sketch) : Token → Option Sketch
  | .set _ brackets => some (s.push brackets)
  | .dot | .caret | .dollar | .anchor _ => some (s.push 0)
  | .opening .. => some ⟨0, none, s.top :: s.outer⟩
  | .flags _ | .bar => some { s with last := none }
  | .closing =>
    match s.outer with
    | [] => none
    | top :: outer => some (push ⟨top, none, outer⟩ (s.top + 3))
  | .repetition .. => s.last.map fun n => s.push (n + 1)

/-- The effect of a sequence of tokens. -/
def run? (s : Sketch) : List Token → Option Sketch
  | [] => some s
  | t :: ts => (s.step? t).bind (run? · ts)

lemma run?_append (s : Sketch) (ts us : List Token) :
    s.run? (ts ++ us) = (s.run? ts).bind (run? · us) := by
  induction ts generalizing s with
  | nil => rfl
  | cons t ts ih => cases h : s.step? t <;> simp [run?, h, ih]

/-! ### What stands before a text -/

/-- The weights of some levels, the outermost of which holds something of a given weight. -/
def raise (n : Nat) : List Nat → List Nat
  | [] => []
  | [m] => [max n m]
  | m :: ms => m :: raise n ms

/-- A sketch after other items, inside further groups. -/
def under (s : Sketch) (top : Nat) (outer : List Nat) : Sketch :=
  match s.outer with
  | [] => ⟨max top s.top, s.last, outer⟩
  | o :: os => ⟨s.top, s.last, raise top (o :: os) ++ outer⟩

variable {s s' : Sketch} {t : Token} {ts : List Token} {top : Nat} {outer : List Nat}

lemma push_under (s : Sketch) (n top : Nat) (outer : List Nat) :
    (s.push n).under top outer = (s.under top outer).push n := by
  obtain ⟨_, _, _ | ⟨o, os⟩⟩ := s
  · simp only [under, push, Nat.max_assoc]
  · rfl

lemma last_under (s : Sketch) (top : Nat) (outer : List Nat) :
    (s.under top outer).last = s.last := by
  obtain ⟨_, _, _ | ⟨o, os⟩⟩ := s <;> rfl

lemma step?_under (h : s.step? t = some s') (top : Nat) (outer : List Nat) :
    (s.under top outer).step? t = some (s'.under top outer) := by
  cases t with
  | set | dot | caret | dollar | anchor =>
      cases h
      rw [push_under]
      rfl
  | opening =>
      cases h
      obtain ⟨_, _, _ | ⟨o, os⟩⟩ := s <;> rfl
  | flags | bar =>
      cases h
      obtain ⟨_, _, _ | ⟨o, os⟩⟩ := s <;> rfl
  | closing =>
      obtain ⟨m, l, _ | ⟨o, _ | ⟨o', os⟩⟩⟩ := s
      · exact nomatch h
      · cases h
        simp only [under, raise, step?, push, List.cons_append, List.nil_append, Nat.max_assoc]
      · cases h
        rfl
  | repetition =>
      obtain ⟨n, hn, he⟩ := Option.map_eq_some_iff.1 h
      cases he
      rw [push_under, step?, last_under, hn]
      rfl

lemma run?_under (h : s.run? ts = some s') (top : Nat) (outer : List Nat) :
    (s.under top outer).run? ts = some (s'.under top outer) := by
  induction ts generalizing s with
  | nil =>
      cases h
      rfl
  | cons t ts ih =>
      obtain ⟨s₁, hs, h⟩ := Option.bind_eq_some_iff.1 h
      rw [run?, step?_under hs, Option.bind_some]
      exact ih h

/-- A text that repeats nothing from before does not depend on what could be repeated. -/
lemma run?_of_last (h : ({ s with last := none } : Sketch).run? ts = some s') :
    ∃ last, s.run? ts = some { s' with last } := by
  cases ts with
  | nil =>
      cases h
      exact ⟨s.last, rfl⟩
  | cons t ts =>
      refine ⟨s'.last, ?_⟩
      cases t with
      | repetition => exact nomatch h
      | set | dot | caret | dollar | anchor | opening | flags | bar | closing => exact h

/-- **What stands before a text does not matter to it.** -/
theorem exists_run? (h : ({} : Sketch).run? ts = some s) (hs : s.outer = []) (s' : Sketch) :
    ∃ last, s'.run? ts = some ⟨max s'.top s.top, last, s'.outer⟩ := by
  have hunder := run?_under h s'.top s'.outer
  obtain ⟨m, l, outer⟩ := s
  cases hs
  have hstart : ({} : Sketch).under s'.top s'.outer = { s' with last := none } := by
    rw [under, Nat.max_zero]
  rw [hstart] at hunder
  exact run?_of_last hunder

end Sketch

/-! ### Assemblies -/

namespace Assembly

/-- The weights in an assembly. -/
def sketch (a : Assembly) : Sketch :=
  ⟨a.level.weight, a.level.last?, a.groups.map (·.2.weight)⟩

/-- The names of the groups that were opened. -/
def writtenNames (a : Assembly) : List String :=
  (a.groups.reverse.flatMap fun g => g.2.phrase.writtenNames ++ g.1.name?.toList) ++
    a.level.phrase.writtenNames

/-- Nothing in an assembly nests much deeper than its weight. -/
structure IsShallow (a : Assembly) : Prop where
  level : a.level.IsShallow
  groups : ∀ g ∈ a.groups, g.2.IsShallow

variable {a a' : Assembly} {t : Token} {ts : List Token} {p : Phrase}

lemma sketch_push (a : Assembly) (hp : p.isRepeatable = true) :
    (a.push p).sketch = a.sketch.push p.weight := by
  simp only [sketch, push, Sketch.push, Level.weight_push, a.level.last?_push hp]

/-- The sketch of an assembly takes the same steps. -/
lemma map_sketch_step? (a : Assembly) (t : Token) :
    (a.step? t).map sketch = a.sketch.step? t := by
  cases t with
  | set s brackets =>
      refine congrArg some ((a.sketch_push rfl).trans (congrArg a.sketch.push ?_))
      exact Nat.one_mul _
  | dot | caret | dollar | anchor => exact congrArg some (a.sketch_push rfl)
  | opening => rfl
  | flags change =>
      have hweight : (a.level.switch change).weight = a.level.weight :=
        (a.level.weight_push .switches).trans (Nat.max_zero _)
      simp only [step?, Sketch.step?, sketch, hweight, Option.map_some]
      rfl
  | bar =>
      simp only [step?, Sketch.step?, sketch, Level.weight_fork, Option.map_some]
      rfl
  | closing =>
      obtain ⟨level, _ | ⟨⟨kind, outer⟩, groups⟩⟩ := a
      · rfl
      · refine congrArg some ((sketch_push ⟨outer, groups⟩ rfl).trans ?_)
        have hweight : (Phrase.group kind level.phrase).weight = level.weight + 3 :=
          congrArg (· + 3) level.weight_phrase
        rw [hweight]
        rfl
  | repetition least most lazy =>
      have hlevel := congrArg (Option.map fun w => (⟨w.1, w.2, a.sketch.outer⟩ : Sketch))
        (a.level.map_repeatLast? least most lazy)
      rw [Option.map_map, Option.map_map] at hlevel
      rw [step?, Option.map_map]
      exact hlevel

/-- **The sketch of an assembly takes the same steps.** -/
theorem map_sketch_run? (a : Assembly) (ts : List Token) :
    (a.run? ts).map sketch = a.sketch.run? ts := by
  induction ts generalizing a with
  | nil => rfl
  | cons t ts ih =>
      rw [run?, Sketch.run?, ← map_sketch_step?, Option.map_bind, Option.bind_map]
      exact congrArg _ (funext ih)

/-! ### Depths of assemblies -/

/-- One token keeps an assembly shallow. -/
lemma IsShallow.step? (h : a.IsShallow) (ha : a.step? t = some a') : a'.IsShallow := by
  cases t with
  | set s brackets =>
      cases ha
      exact ⟨h.level.push (Nat.le_of_eq (Nat.one_mul _).symm), h.groups⟩
  | dot | caret | dollar | anchor =>
      cases ha
      exact ⟨h.level.push (Nat.le_refl 0), h.groups⟩
  | flags =>
      cases ha
      have hpush := h.level.push (p := .switches) (Nat.le_refl 0)
      exact ⟨⟨hpush.items, hpush.branches⟩, h.groups⟩
  | opening =>
      cases ha
      exact ⟨Level.isShallow_empty _, List.forall_mem_cons.2 ⟨h.level, h.groups⟩⟩
  | bar =>
      cases ha
      exact ⟨h.level.fork, h.groups⟩
  | closing =>
      obtain ⟨level, _ | ⟨⟨kind, outer⟩, groups⟩⟩ := a
      · exact nomatch ha
      · cases ha
        obtain ⟨houter, hgroups⟩ := List.forall_mem_cons.1 h.groups
        exact ⟨houter.push (Nat.add_le_add_right h.level.phrase 1), hgroups⟩
  | repetition =>
      obtain ⟨level, hl, he⟩ := Option.map_eq_some_iff.1 ha
      cases he
      obtain ⟨p, items, lazy, hitems, rfl⟩ := Level.repeatLast?_eq hl
      have hall := h.level.items
      rw [hitems] at hall
      obtain ⟨hp, hrest⟩ := List.forall_mem_cons.1 hall
      exact ⟨⟨List.forall_mem_cons.2 ⟨Nat.add_le_add_right hp 1, hrest⟩, h.level.branches⟩,
        h.groups⟩

lemma IsShallow.run? (h : a.IsShallow) (ha : a.run? ts = some a') : a'.IsShallow := by
  induction ts generalizing a with
  | nil =>
      cases ha
      exact h
  | cons t ts ih =>
      obtain ⟨b, hb, ha⟩ := Option.bind_eq_some_iff.1 ha
      exact ih (h.step? hb) ha

/-! ### Names of groups -/

lemma writtenNames_push (a : Assembly) (p : Phrase) :
    (a.push p).writtenNames = a.writtenNames ++ p.writtenNames := by
  rw [writtenNames, writtenNames, push, Level.writtenNames_push, List.append_assoc]

/-- A token adds the name of the group that it opens. -/
lemma writtenNames_step? (ha : a.step? t = some a') :
    a'.writtenNames = a.writtenNames ++ t.groupName?.toList := by
  cases t with
  | set | dot | caret | dollar | anchor =>
      cases ha
      exact a.writtenNames_push _
  | flags change =>
      cases ha
      exact a.writtenNames_push .switches
  | opening kind change =>
      cases ha
      rw [writtenNames, writtenNames, List.reverse_cons, List.flatMap_append, List.flatMap_singleton,
        List.append_assoc, List.append_assoc, List.append_assoc]
      exact congrArg (fun names => _ ++ (_ ++ names)) (List.append_nil _)
  | bar =>
      cases ha
      rw [writtenNames, writtenNames, Level.writtenNames_fork]
      exact (List.append_nil _).symm
  | closing =>
      obtain ⟨level, _ | ⟨⟨kind, outer⟩, groups⟩⟩ := a
      · exact nomatch ha
      · cases ha
        refine ((writtenNames_push ⟨outer, groups⟩ _).trans ?_).trans (List.append_nil _).symm
        rw [Phrase.writtenNames]
        simp only [writtenNames, List.reverse_cons, List.flatMap_append, List.flatMap_singleton,
          List.append_assoc]
  | repetition =>
      obtain ⟨level, hl, he⟩ := Option.map_eq_some_iff.1 ha
      cases he
      obtain ⟨p, items, lazy, hitems, rfl⟩ := Level.repeatLast?_eq hl
      simp only [writtenNames, Level.writtenNames_phrase, hitems, List.reverse_cons,
        List.flatMap_append, List.flatMap_singleton]
      exact (List.append_nil _).symm

/-- **The names of the groups are those that the tokens open**, in their order. -/
theorem writtenNames_run? (ha : a.run? ts = some a') :
    a'.writtenNames = a.writtenNames ++ ts.filterMap Token.groupName? := by
  induction ts generalizing a with
  | nil =>
      cases ha
      exact (List.append_nil _).symm
  | cons t ts ih =>
      obtain ⟨b, hb, ha⟩ := Option.bind_eq_some_iff.1 ha
      rw [ih ha, writtenNames_step? hb, List.append_assoc]
      cases ht : t.groupName? <;> simp [ht]

end Assembly

/-! ### Whole texts -/

lemma Phrase.ofTokens?_eq_some {ts : List Token} {p : Phrase} (h : Phrase.ofTokens? ts = some p) :
    ∃ level : Level, ({} : Assembly).run? ts = some ⟨level, []⟩ ∧ level.phrase = p := by
  obtain ⟨⟨level, groups⟩, hrun, h⟩ := Option.bind_eq_some_iff.1 h
  obtain ⟨hgroups, h⟩ := Option.ite_none_right_eq_some.1 h
  obtain rfl := List.isEmpty_iff.1 hgroups
  exact ⟨level, hrun, Option.some.inj h⟩

namespace Token

/-- The groups of a text are closed, each repetition has something to repeat, and nothing is heavier
than a given weight. -/
def Nests (ts : List Token) (n : Nat) : Prop :=
  ∃ s, ({} : Sketch).run? ts = some s ∧ s.top ≤ n ∧ s.outer = []

variable {ts us : List Token} {m n : Nat} {p : Phrase}

lemma Nests.mono (h : Nests ts m) (hle : m ≤ n) : Nests ts n := by
  obtain ⟨s, hs, htop, houter⟩ := h
  exact ⟨s, hs, htop.trans hle, houter⟩

/-- A text nests wherever it stands. -/
lemma Nests.exists_run? (h : Nests ts n) (s : Sketch) :
    ∃ s', s.run? ts = some s' ∧ s'.top ≤ max s.top n ∧ s'.outer = s.outer := by
  obtain ⟨s', hs', htop, houter⟩ := h
  obtain ⟨last, hrun⟩ := Sketch.exists_run? hs' houter s
  exact ⟨_, hrun, Nat.max_le.2 ⟨Nat.le_max_left _ _, htop.trans (Nat.le_max_right _ _)⟩, rfl⟩

lemma Nests.append (h : Nests ts n) (h' : Nests us n) : Nests (ts ++ us) n := by
  obtain ⟨s, hs, htop, houter⟩ := h
  obtain ⟨s', hs', htop', houter'⟩ := h'.exists_run? s
  refine ⟨s', ?_, htop'.trans (Nat.max_le.2 ⟨htop, Nat.le_refl n⟩), houter'.trans houter⟩
  rw [Sketch.run?_append, hs, Option.bind_some, hs']

lemma nests_bar : Nests [.bar] 0 :=
  ⟨{}, rfl, Nat.le_refl 0, rfl⟩

/-- A group weighs three more than what it holds. -/
lemma Nests.exists_run?_group (h : Nests ts n) (kind : GroupKind) (change : FlagChange) :
    ∃ m ≤ n + 3, ({} : Sketch).run? (.opening kind change :: (ts ++ [.closing])) =
      some ⟨m, some m, []⟩ := by
  obtain ⟨s, hs, htop, houter⟩ := h.exists_run? ⟨0, none, [0]⟩
  refine ⟨s.top + 3, Nat.add_le_add_right (htop.trans (Nat.zero_max n).le) 3, ?_⟩
  have hopened : ({} : Sketch).step? (.opening kind change) = some ⟨0, none, [0]⟩ := rfl
  rw [Sketch.run?, hopened, Option.bind_some, Sketch.run?_append, hs, Option.bind_some, Sketch.run?,
    Sketch.step?, houter]
  simp only [Sketch.push, Nat.zero_max, Option.bind_some, Sketch.run?]

lemma Nests.group (h : Nests ts n) (kind : GroupKind) (change : FlagChange) :
    Nests (.opening kind change :: (ts ++ [.closing])) (n + 3) := by
  obtain ⟨m, hm, hrun⟩ := h.exists_run?_group kind change
  exact ⟨_, hrun, hm, rfl⟩

lemma Nests.repeated (h : Nests ts n) (kind : GroupKind) (change : FlagChange) (least : Nat)
    (most : Option Nat) (lazy : Bool) :
    Nests (.opening kind change :: (ts ++ [.closing]) ++ [.repetition least most lazy])
      (n + 4) := by
  obtain ⟨m, hm, hrun⟩ := h.exists_run?_group kind change
  refine ⟨⟨m + 1, some (m + 1), []⟩, ?_, Nat.add_le_add_right hm 1, rfl⟩
  rw [Sketch.run?_append, hrun]
  exact congrArg (fun n => some (⟨n, some (m + 1), []⟩ : Sketch))
    (Nat.max_eq_right (Nat.le_succ m))

/-- The tokens of a phrase nest up to its weight. -/
lemma nests_of_ofTokens? (h : Phrase.ofTokens? ts = some p) : Nests ts p.weight := by
  obtain ⟨level, hrun, rfl⟩ := Phrase.ofTokens?_eq_some h
  have hsketch := Assembly.map_sketch_run? {} ts
  rw [hrun] at hsketch
  exact ⟨_, hsketch.symm, level.weight_phrase.ge, rfl⟩

lemma writtenNames_of_ofTokens? (h : Phrase.ofTokens? ts = some p) :
    p.writtenNames = ts.filterMap groupName? := by
  obtain ⟨level, hrun, rfl⟩ := Phrase.ofTokens?_eq_some h
  exact Assembly.writtenNames_run? hrun

/-- **Tokens that nest make a phrase that is hardly deeper than their weight.** -/
theorem Nests.exists_ofTokens? (h : Nests ts n) :
    ∃ p, Phrase.ofTokens? ts = some p ∧ p.depth ≤ n + 2 ∧
      p.writtenNames = ts.filterMap groupName? := by
  obtain ⟨s, hs, htop, houter⟩ := h
  have hsketch : (({} : Assembly).run? ts).map Assembly.sketch = some s :=
    (Assembly.map_sketch_run? {} ts).trans hs
  obtain ⟨⟨level, groups⟩, hrun, rfl⟩ := Option.map_eq_some_iff.1 hsketch
  obtain rfl := List.map_eq_nil_iff.1 houter
  have hp : Phrase.ofTokens? ts = some level.phrase := by
    rw [Phrase.ofTokens?, hrun]
    rfl
  have hempty : ({} : Assembly).IsShallow := ⟨Level.isShallow_empty {}, fun _ hg => nomatch hg⟩
  refine ⟨_, hp, (hempty.run? hrun).level.phrase.trans (Nat.add_le_add_right ?_ 2),
    writtenNames_of_ofTokens? hp⟩
  exact level.weight_phrase.le.trans htop

end Token

end HttpRouting
