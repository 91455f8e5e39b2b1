/-
The phrases that the text of a regular expression is made of.

* `Phrase`: an expression as it is written, with its groups and counted repetitions;
* `Phrase.concat`, `Phrase.choice`: phrases in a row and side by side;
* `Phrase.regex`: the meaning of a phrase;
* `Phrase.outline`: its outline;
* `Phrase.depth`: how deep its parts nest;
* `Phrase.nesting`: how deep its groups and repetitions nest;
* `Phrase.writtenNames`: the names of the groups that are written;
* `Phrase.groupNames`: the names of the groups that report;
* `regexes_eq_map`: the meanings of several phrases.

A counted repetition is one phrase, however often it repeats. Its meaning holds a copy of the body
for each time.
-/
import HttpRouting.Regex.Outline
import HttpRouting.Regex.Token

namespace HttpRouting

/-- A regular expression as it is written. -/
inductive Phrase where
  | empty
  /-- A change of switches. -/
  | switches
  /-- A set, written with brackets that nest to some depth. -/
  | set (s : CharSet) (nesting : Nat)
  | anchor (a : Anchor)
  | group (kind : GroupKind) (body : Phrase)
  | repetition (body : Phrase) (least : Nat) (most : Option Nat) (lazy : Bool)
  | row (items : List Phrase)
  | fork (branches : List Phrase)

namespace Phrase

/-! ### Making phrases -/

/-- Several phrases in a row. -/
def concat : List Phrase → Phrase
  | [] => empty
  | [p] => p
  | ps => row ps

/-- One of several phrases. -/
def choice : List Phrase → Phrase
  | [] => empty
  | [p] => p
  | ps => fork ps

/-- Whether a phrase can be repeated. -/
def isRepeatable : Phrase → Bool
  | empty | switches => false
  | _ => true

/-! ### Meaning -/

mutual

/-- The meaning of a phrase. A group with a name reports its position, any other is its body. -/
def regex : Phrase → Regex
  | empty | switches => .empty
  | set s _ => .set s
  | anchor a => .anchor a
  | group kind body =>
    match kind with
    | .named name => .group name body.regex
    | .plain | .numbered => body.regex
  | repetition body least most lazy => body.regex.repeated least most lazy
  | row items => .ofList (regexes items)
  | fork branches =>
    match regexes branches with
    | [] => .empty
    | r :: rs => .anyOf r rs

/-- The meanings of several phrases. -/
def regexes : List Phrase → List Regex
  | [] => []
  | p :: ps => p.regex :: regexes ps

end

/-! ### Outline -/

mutual

/-- The outline of a phrase. A group reports its position, unless it is plain. -/
def outline : Phrase → Outline
  | empty | switches => .empty
  | set s _ => .ofSet s
  | anchor a => .look a
  | group kind body =>
    match kind with
    | .plain => body.outline
    | .numbered | .named _ => .capture body.outline
  | repetition body least most lazy => body.outline.repeated least most lazy
  | row items => .concat (outlines items)
  | fork branches => .choice (outlines branches)

/-- The outlines of several phrases. -/
def outlines : List Phrase → List Outline
  | [] => []
  | p :: ps => p.outline :: outlines ps

end

/-! ### Depth -/

mutual

/-- How deep the parts of a phrase nest. Groups, repetitions, rows, forks and brackets count. -/
def depth : Phrase → Nat
  | empty | switches | anchor _ => 0
  | set _ nesting => nesting
  | group _ body => body.depth + 1
  | repetition body _ _ _ => body.depth + 1
  | row items => maxDepth items + 1
  | fork branches => maxDepth branches + 1

/-- The depth of the deepest of several phrases. -/
def maxDepth : List Phrase → Nat
  | [] => 0
  | p :: ps => max p.depth (maxDepth ps)

end

mutual

/-- How deep groups and repetitions nest in a phrase. Each adds its weight, and brackets inside a
set count as repetitions. -/
def nesting (perGroup perRound : Nat) : Phrase → Nat
  | empty | switches | anchor _ => 0
  | set _ brackets => perRound * brackets
  | group _ body => body.nesting perGroup perRound + perGroup
  | repetition body _ _ _ => body.nesting perGroup perRound + perRound
  | row items => nestingOfAll perGroup perRound items
  | fork branches => nestingOfAll perGroup perRound branches

/-- The deepest nesting in one of several phrases. -/
def nestingOfAll (perGroup perRound : Nat) : List Phrase → Nat
  | [] => 0
  | p :: ps => max (p.nesting perGroup perRound) (nestingOfAll perGroup perRound ps)

end

/-! ### Names of groups -/

mutual

/-- The names of the groups that are written in a phrase, in order. -/
def writtenNames : Phrase → List String
  | empty | switches | set .. | anchor _ => []
  | group kind body => kind.name?.toList ++ body.writtenNames
  | repetition body _ _ _ => body.writtenNames
  | row items => allWrittenNames items
  | fork branches => allWrittenNames branches

/-- The names of the groups that are written in several phrases, in order. -/
def allWrittenNames : List Phrase → List String
  | [] => []
  | p :: ps => p.writtenNames ++ allWrittenNames ps

end

mutual

/-- The names of the groups of a phrase, in order. A repetition that never repeats has none. -/
def groupNames : Phrase → List String
  | empty | switches | set .. | anchor _ => []
  | group kind body => kind.name?.toList ++ body.groupNames
  | repetition body least most _ =>
    match least, most with
    | 0, some 0 => []
    | _, _ => body.groupNames
  | row items => allGroupNames items
  | fork branches => allGroupNames branches

/-- The names of the groups of several phrases, in order. -/
def allGroupNames : List Phrase → List String
  | [] => []
  | p :: ps => p.groupNames ++ allGroupNames ps

end

/-! ### Lemmas -/

/-- The meanings of several phrases. -/
theorem regexes_eq_map (ps : List Phrase) : regexes ps = ps.map regex := by
  induction ps with
  | nil => rfl
  | cons p ps ih => rw [regexes, ih, List.map_cons]

/-- The names of the groups that are written in several phrases. -/
theorem allWrittenNames_eq_flatMap (ps : List Phrase) :
    allWrittenNames ps = ps.flatMap writtenNames := by
  induction ps with
  | nil => rfl
  | cons p ps ih => rw [allWrittenNames, ih, List.flatMap_cons]

end Phrase

end HttpRouting
