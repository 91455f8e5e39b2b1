/-
What texts mean as parts of a regular expression.

* `Phrase.runAll`: the runs of phrases in a row;
* `Phrase.run_concat`, `Phrase.run_choice`: the runs of a row, and of a choice;
* `Means`, `MeansInside`: how a text runs among others, and alone inside a group;
* `Means.append`, `means_literal`, `MeansInside.named`, `MeansInside.optional`,
  `meansInside_bars`: how texts run that are put together;
* `Tries`: texts between bars that try several runs in turn;
* `match?_ofPhrase_anchored`, `match?_anchored`: matching the text between anchors.

The way a text runs is given by what it makes of what follows it.
-/
import HttpRouting.Proofs.Regex.Lengths
import HttpRouting.Proofs.Regex.Scanning
import HttpRouting.Proofs.Regex.Spelling
import Mathlib.Tactic.Choose

namespace HttpRouting

/-! ### Runs of phrases -/

namespace Regex

lemma run_ofList (rs : List Regex) (k : Onward) :
    (ofList rs).run k = rs.foldr (fun r k => r.run k) k := by
  induction rs with
  | nil =>
      funext p
      rfl
  | cons r rs ih =>
      cases rs with
      | nil => rfl
      | cons s rs =>
          funext p
          rw [ofList, run, ih, List.foldr_cons]
          all_goals simp

lemma run_anyOf (r : Regex) (rs : List Regex) (k : Onward) (p : Spot) :
    (anyOf r rs).run k p = (r :: rs).findSome? fun s => s.run k p := by
  induction rs generalizing r with
  | nil =>
      rw [anyOf, List.findSome?_cons]
      cases r.run k p <;> rfl
  | cons s rs ih =>
      rw [anyOf, run, ih, List.findSome?_cons (a := r)]
      cases r.run k p <;> rfl

end Regex

namespace Phrase

/-- The runs of phrases in a row. -/
def runAll (items : List Phrase) (k : Onward) : Onward :=
  items.foldr (fun p k => p.regex.run k) k

lemma runAll_append (items others : List Phrase) (k : Onward) :
    runAll (items ++ others) k = runAll items (runAll others k) := by
  rw [runAll, List.foldr_append]
  rfl

lemma run_concat (items : List Phrase) (k : Onward) :
    (concat items).regex.run k = runAll items k := by
  match items with
  | [] =>
      funext p
      rfl
  | [_] => rfl
  | _ :: _ :: _ =>
      rw [concat, regex, Regex.run_ofList, regexes_eq_map, List.foldr_map]
      · rfl
      all_goals simp

/-- A choice tries its branches in turn. -/
lemma run_choice {ps : List Phrase} (hne : ps ≠ []) (k : Onward) (p : Spot) :
    (choice ps).regex.run k p = ps.findSome? fun q => q.regex.run k p := by
  match ps with
  | [] => exact absurd rfl hne
  | [q] =>
      rw [choice, List.findSome?_singleton]
  | q :: q' :: ps =>
      rw [choice, regex, regexes_eq_map, List.map_cons]
      · dsimp only
        rw [Regex.run_anyOf, ← List.map_cons, List.findSome?_map]
        rfl
      all_goals simp

end Phrase

/-! ### Meanings -/

/-- A text runs in some way among other texts. -/
def Means (cs : List Char) (f : Onward → Onward) : Prop :=
  ∃ items, Spells cs items ∧ ∀ k, Phrase.runAll items k = f k

/-- A text runs in some way alone inside a group. -/
def MeansInside (cs : List Char) (f : Onward → Onward) : Prop :=
  ∃ p : Phrase, Fills cs p ∧ ∀ k, p.regex.run k = f k

/-- What follows a group with a name reports where it ended. -/
def closing (name : String) (k : Onward) : Onward := fun q =>
  (k q).map (.closed name q.index :: ·)

variable {cs ds : List Char} {f g : Onward → Onward}

lemma Means.congr (h : Means cs f) (he : ∀ k p, f k p = g k p) : Means cs g := by
  obtain rfl : f = g := funext fun k => funext fun p => he k p
  exact h

lemma means_nil : Means [] fun k => k :=
  ⟨[], spells_nil, fun _ => rfl⟩

lemma Means.append (hc : Means cs f) (hd : Means ds g) : Means (cs ++ ds) fun k => f (g k) := by
  obtain ⟨items, hitems, hf⟩ := hc
  obtain ⟨others, hothers, hg⟩ := hd
  exact ⟨_, hitems.append hothers, fun k => by rw [Phrase.runAll_append, hf, hg]⟩

lemma Means.inside (h : Means cs f) : MeansInside cs f := by
  obtain ⟨items, hitems, hf⟩ := h
  exact ⟨_, hitems.fills, fun k => by rw [Phrase.run_concat, hf]⟩

/-- How an escaped text runs: it takes itself. -/
def literalRun (text : List Char) (k : Onward) : Onward := fun p =>
  if text <+: p.rest then k (p.move text.length) else none

lemma means_literal (text : List Char) : Means (escapeLiteral text) (literalRun text) := by
  refine ⟨_, spells_escapeLiteral text, fun k => ?_⟩
  funext p
  rw [literalRun]
  induction text generalizing p with
  | nil => simp [Phrase.runAll, Spot.move]
  | cons c text ih =>
      rw [List.map_cons, Phrase.runAll, List.foldr_cons, Phrase.regex, Regex.run]
      cases hp : p.rest with
      | nil => simp
      | cons d rest =>
          have hrest := ih (p.after d rest)
          by_cases hd : d = c
          · subst hd
            simp only [CharSet.contains_single, if_true, List.cons_prefix_cons, true_and,
              List.length_cons, Spot.move_cons hp]
            exact hrest
          · have hc : ¬ (c = d ∧ text <+: rest) := fun hc => hd hc.1.symm
            simp only [CharSet.contains_single, hd, if_false, List.cons_prefix_cons, hc]

/-- A named group reports where its inside begins and ends. -/
lemma MeansInside.named {name : String} {kind : List Char} (hopens : Opens kind (.named name))
    (h : MeansInside cs f) :
    Means (kind ++ cs ++ [')']) fun k p =>
      (f (closing name k) p).map (.opened name p.index :: ·) := by
  obtain ⟨q, hq, hf⟩ := h
  refine ⟨_, hq.group hopens, fun k => ?_⟩
  funext p
  dsimp only
  rw [← hf]
  rfl

/-- A plain group runs like its inside. -/
lemma MeansInside.plain (h : MeansInside cs f) : Means ("(?:".toList ++ cs ++ [')']) f := by
  obtain ⟨q, hq, hf⟩ := h
  exact ⟨_, hq.group opens_plain, fun k => hf k⟩

/-- How an optional group runs: its inside is tried before it is left out. -/
def optionalRun (f : Onward → Onward) (k : Onward) : Onward := fun p =>
  (f k p).orElse fun _ => k p

lemma MeansInside.optional (h : MeansInside cs f) :
    Means (optionalNotation cs) (optionalRun f) := by
  obtain ⟨q, hq, hf⟩ := h
  refine ⟨_, hq.optional, fun k => ?_⟩
  funext p
  rw [optionalRun]
  rw [← hf]
  rfl

/-- Texts between bars are tried in turn. -/
lemma meansInside_bars {ι : Type} {text : ι → List Char} {f : ι → Onward → Onward} {is : List ι}
    (hne : is ≠ []) (h : ∀ i ∈ is, Means (text i) (f i)) :
    MeansInside (bars (is.map text)) fun k p => is.findSome? fun i => f i k p := by
  have hitems : ∀ i, ∃ items, i ∈ is →
      Spells (text i) items ∧ ∀ k, Phrase.runAll items k = f i k := by
    intro i
    by_cases hi : i ∈ is
    · obtain ⟨items, hitems⟩ := h i hi
      exact ⟨items, fun _ => hitems⟩
    · exact ⟨[], fun hi' => absurd hi' hi⟩
  choose items hitems using hitems
  refine ⟨_, fills_bars hne fun i hi => (hitems i hi).1, fun k => ?_⟩
  funext p
  rw [Phrase.run_choice (by simpa using hne), List.findSome?_map]
  refine findSome?_congr fun i hi => ?_
  rw [Function.comp_apply, Phrase.run_concat, (hitems i hi).2]

/-! ### Texts side by side -/

/-- Texts that try some runs in turn when they stand between bars. A text may try several. -/
structure Tries (texts : List (List Char)) (runs : List (Onward → Onward)) : Prop where
  exists_parts : ∃ parts : List (List Char × (Onward → Onward)), parts.map (·.1) = texts ∧
    (∀ part ∈ parts, Means part.1 part.2) ∧
    ∀ k p, (parts.findSome? fun part => part.2 k p) = runs.findSome? fun f => f k p
  eq_nil : texts = [] → runs = []

namespace Tries

variable {texts : List (List Char)} {runs runs' : List (Onward → Onward)}

lemma nil : Tries [] [] where
  exists_parts := ⟨[], rfl, by simp, fun _ _ => rfl⟩
  eq_nil _ := rfl

/-- One more text in front, which tries several runs. -/
lemma cons (h : Means cs fun k p => runs.findSome? fun f => f k p) (h' : Tries texts runs') :
    Tries (cs :: texts) (runs ++ runs') where
  exists_parts := by
    obtain ⟨parts, rfl, hparts, hruns⟩ := h'.exists_parts
    refine ⟨(cs, fun k p => runs.findSome? fun f => f k p) :: parts, rfl, ?_, fun k p => ?_⟩
    · intro part hp
      rcases List.mem_cons.1 hp with rfl | hp
      · exact h
      · exact hparts part hp
    · rw [List.findSome?_cons, List.findSome?_append, ← hruns]
      dsimp only
      cases runs.findSome? fun f => f k p <;> rfl
  eq_nil h := nomatch h

/-- One more text in front, which runs in one way. -/
lemma cons_single (h : Means cs f) (h' : Tries texts runs) : Tries (cs :: texts) (f :: runs) :=
  cons (h.congr fun k p => by rw [List.findSome?_singleton]) h'

lemma ne_nil (h : Tries texts runs) (hne : runs ≠ []) : texts ≠ [] :=
  fun he => hne (h.eq_nil he)

/-- Texts between bars are tried in turn. -/
lemma inside (h : Tries texts runs) (hne : texts ≠ []) :
    MeansInside (bars texts) fun k p => runs.findSome? fun f => f k p := by
  obtain ⟨parts, rfl, hparts, hruns⟩ := h.exists_parts
  have hall := meansInside_bars (fun he => hne (by rw [he, List.map_nil])) hparts
  simp only [hruns] at hall
  exact hall

/-- A single text needs no group around it. -/
lemma alternation (h : Tries texts runs) (hne : texts ≠ []) :
    Means (alternation texts) fun k p => runs.findSome? fun f => f k p := by
  have hgroup := (h.inside hne).plain
  match texts with
  | [] => exact hgroup
  | [cs] =>
      obtain ⟨parts, hp, hparts, hruns⟩ := h.exists_parts
      obtain ⟨part, rfl, rfl⟩ := List.map_eq_singleton_iff.1 hp
      refine (hparts part List.mem_cons_self).congr fun k p => ?_
      rw [← hruns, List.findSome?_singleton]
  | _ :: _ :: _ => exact hgroup

end Tries

/-! ### Matching -/

/-- What follows a text at the end: nothing. -/
def atEnd : Onward := fun q => if q.rest.isEmpty then some [] else none

/-- What runs at the start of a text only is searched there. -/
lemma search_of_start {r : Regex}
    (h : ∀ p : Spot, p.before.isSome → r.run (fun _ => some []) p = none) (text : List Char) :
    r.search text = r.run (fun _ => some []) (.ofText text) := by
  have hlater : ∀ cs index c, r.searchFrom index (some c) cs = none := by
    intro cs
    induction cs with
    | nil => exact fun index c => h _ rfl
    | cons d cs ih =>
        intro index c
        rw [Regex.searchFrom, h _ rfl]
        exact ih (index + 1) d
  cases text with
  | nil => rfl
  | cons c cs =>
      rw [Regex.search, Regex.searchFrom, hlater, Spot.ofText]
      cases r.run _ _ <;> rfl

/-- **The phrase of a text between anchors** runs it from the start to the end. -/
theorem match?_ofPhrase_anchored (h : Means cs f) {q : Phrase}
    (hq : Phrase.ofText? (anchored cs) = some q) (text : List Char) :
    (Pattern.ofPhrase q).match? text = (f atEnd (.ofText text)).map (⟨text, ·⟩) := by
  obtain ⟨items, hitems, hf⟩ := h
  obtain rfl := hitems.anchored.eq_of_ofText? hq
  have hrun : ∀ p : Spot, (Phrase.concat ([.anchor .start] ++ items ++ [.anchor .stop])).regex.run
      (fun _ => some []) p = if p.before.isNone then f atEnd p else none := by
    intro p
    have hstop : Phrase.runAll [.anchor .stop] (fun _ => some []) = atEnd := by
      funext q
      rw [atEnd, Phrase.runAll, List.foldr_cons, Phrase.regex, Regex.run, Anchor.holds]
      cases q.rest <;> rfl
    rw [Phrase.run_concat, Phrase.runAll_append, Phrase.runAll_append, hstop, ← hf]
    rfl
  have hstart : ∀ p : Spot, p.before.isSome → (Phrase.concat
      ([.anchor .start] ++ items ++ [.anchor .stop])).regex.run (fun _ => some []) p = none := by
    intro p hp
    rw [hrun, if_neg (by simp [Option.isSome_iff_ne_none.1 hp])]
  rw [Pattern.match?, Scanner.search_eq, Pattern.ofPhrase, search_of_start hstart, hrun]
  rfl

/-- **Matching the text between anchors** runs it from the start to the end. -/
theorem match?_anchored (h : Means cs f) {p : Pattern} (hp : Pattern.parse? (anchored cs) = some p)
    (text : List Char) : p.match? text = (f atEnd (.ofText text)).map (⟨text, ·⟩) := by
  obtain ⟨q, hq, rfl⟩ := Option.map_eq_some_iff.1 hp
  obtain ⟨hq, -⟩ := Option.filter_eq_some_iff.1 hq
  exact match?_ofPhrase_anchored h hq text

end HttpRouting
