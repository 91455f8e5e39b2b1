/-
Outlines of regular expressions: what they look like once needless structure is gone.

* `Outline`: an expression whose repetitions are counted and whose sets are intervals;
* `Outline.same`: equality, where no group equals another;
* `Outline.extent`: the length of the shortest or the longest match;
* `Outline.ofSet`, `Outline.repeated`, `Outline.concat`, `Outline.choice`: the outlines of
  compound expressions from those of their parts;
* `Outline.pins`: whether every match begins, or ends, at an anchor.

An outline says how large an expression is, and nothing about preferences among matches.
-/
import HttpRouting.Regex.Basic

namespace HttpRouting

/-- The outline of an expression. A chain is not directly part of a chain, nor a fork of a
fork. -/
inductive Outline where
  | empty
  | literal (text : List Char)
  | set (ranges : List Text.CodeRange)
  | look (a : Anchor)
  | capture (body : Outline)
  | counted (body : Outline) (least : Nat) (most : Option Nat) (lazy : Bool)
  | chain (links : List Outline)
  | fork (branches : List Outline)

namespace Outline

/-! ### Equality -/

mutual

/-- Whether two outlines are equal. Groups report different positions and are never equal. -/
def same : Outline → Outline → Bool
  | empty, empty => true
  | literal s, literal t => s == t
  | set rs, set ss => rs == ss
  | look a, look b => a == b
  | counted o least most lazy, counted p least' most' lazy' =>
    same o p && least == least' && most == most' && lazy == lazy'
  | chain os, chain ps => allSame os ps
  | fork os, fork ps => allSame os ps
  | _, _ => false

/-- Whether two lists of outlines are equal. -/
def allSame : List Outline → List Outline → Bool
  | [], [] => true
  | o :: os, p :: ps => same o p && allSame os ps
  | _, _ => false

end

/-- How many outlines two lists begin with in common. -/
def commonLength : List Outline → List Outline → Nat
  | o :: os, p :: ps => if same o p then commonLength os ps + 1 else 0
  | _, _ => 0

/-! ### Lengths of matches -/

/-- An end of the scale of lengths. -/
inductive Extreme where
  | shortest
  | longest
deriving DecidableEq, Repr

/-- The more extreme of two lengths. -/
def Extreme.pick : Extreme → Nat → Nat → Nat
  | shortest => min
  | longest => max

mutual

/-- The length of the shortest or the longest match. There is none if a part has no matches, or
if there is no bound. A set counts as one character. -/
def extent (x : Extreme) : Outline → Option Nat
  | empty | look _ => some 0
  | literal text => some text.length
  | set rs => if rs.isEmpty then none else some 1
  | capture o => extent x o
  | counted o least most _ =>
    match x with
    | .shortest => (extent x o).map (· * least)
    | .longest => most.bind fun most => (extent x o).map (· * most)
  | chain os => totalExtent x os
  | fork os => forkExtent x os

/-- The length of the shortest or the longest match of several outlines in a row. -/
def totalExtent (x : Extreme) : List Outline → Option Nat
  | [] => some 0
  | o :: os => do return (← extent x o) + (← totalExtent x os)

/-- The length of the shortest or the longest match of one of several outlines. -/
def forkExtent (x : Extreme) : List Outline → Option Nat
  | [] => none
  | [o] => extent x o
  | o :: os => do return x.pick (← extent x o) (← forkExtent x os)

end

/-- Whether an expression matches nothing but the empty text. -/
def isVoid (o : Outline) : Bool :=
  o.extent .longest == some 0

/-! ### Compound outlines -/

/-- The outline of a set. One that has a single character is a literal. -/
def ofRanges : List Text.CodeRange → Outline
  | [(a, b)] => if a = b then literal [Char.ofNat a] else set [(a, b)]
  | rs => set rs

/-- The outline of a set. -/
def ofSet (s : CharSet) : Outline :=
  ofRanges s.ranges

/-- The outline of a repetition. There is no need to repeat the empty text, nor to count to one. -/
def repeated (o : Outline) (least : Nat) (most : Option Nat) (lazy : Bool) : Outline :=
  let (least, most) :=
    if o.isVoid then (min least 1, some ((most.map (min · 1)).getD 1)) else (least, most)
  if most = some 0 then empty
  else if least = 1 ∧ most = some 1 then o
  else counted o least most lazy

/-- The links that an outline contributes to a chain. -/
def links : Outline → List Outline
  | empty => []
  | chain os => os
  | o => [o]

/-- Links with one more in front. Neighbouring literals are one. -/
def link : Outline → List Outline → List Outline
  | literal s, literal t :: os => literal (s ++ t) :: os
  | o, os => o :: os

/-- The outline of several expressions in a row. -/
def concat (os : List Outline) : Outline :=
  match (os.flatMap links).foldr link [] with
  | [] => empty
  | [o] => o
  | os => chain os

/-- The branches that an outline contributes to a fork. -/
def branches : Outline → List Outline
  | fork os => os
  | o => [o]

/-- The character that an outline stands for. -/
def character? : Outline → Option Char
  | literal [c] => some c
  | _ => none

/-- The set that an outline stands for. -/
def edges? : Outline → Option Text.Edges
  | set rs => some (.ofRanges rs)
  | _ => none

/-- The links of a chain. -/
def chain? : Outline → Option (List Outline)
  | chain os => some os
  | _ => none

/-- The outline of the characters in one of several sets. -/
def ofUnion (sets : List Text.Edges) : Outline :=
  ofRanges (sets.foldr Text.Edges.union []).toRanges

/-- The outline of one of several expressions. Characters, or sets, make a set. -/
def plainChoice (os : List Outline) : Outline :=
  match os.flatMap branches with
  | [o] => o
  | os =>
    match os.mapM character?, os.mapM edges? with
    | some cs, _ => ofUnion (cs.map fun c => .ofRanges [(c.toNat, c.toNat)])
    | none, some sets => ofUnion sets
    | none, none => fork os

/-- The number of links that all chains begin with. -/
def sharedLength : List (List Outline) → Nat
  | [] => 0
  | os :: rest => (rest.map (commonLength os)).foldl min os.length

/-- The outline of one of several expressions. If all are chains, the links that they begin with
in common stand before the fork. -/
def choice (os : List Outline) : Outline :=
  match (os.flatMap branches).mapM chain? with
  | some (os :: rest) =>
    let n := if rest.isEmpty then 0 else sharedLength (os :: rest)
    if n = 0 then plainChoice ((os :: rest).map chain)
    else concat (os.take n ++ [plainChoice ((os :: rest).map fun os => concat (os.drop n))])
  | _ => plainChoice os

/-! ### Anchors -/

mutual

/-- Whether every match begins at an anchor, or ends there if the outline is read backward. -/
def pins (a : Anchor) (backward : Bool) : Outline → Bool
  | look b => a == b
  | capture o => pins a backward o
  | counted o least _ _ => least != 0 && pins a backward o
  | chain os => if backward then pinsLast a os else pinsFirst a os
  | fork os => allPin a backward os
  | _ => false

/-- Whether a match of several outlines in a row begins at an anchor. -/
def pinsFirst (a : Anchor) : List Outline → Bool
  | [] => false
  | o :: os => pins a false o || o.isVoid && pinsFirst a os

/-- Whether a match of several outlines in a row ends at an anchor. -/
def pinsLast (a : Anchor) : List Outline → Bool
  | [] => false
  | o :: os => pinsLast a os || os.all isVoid && pins a true o

/-- Whether the matches of all of several outlines begin, or end, at an anchor. -/
def allPin (a : Anchor) (backward : Bool) : List Outline → Bool
  | [] => true
  | o :: os => pins a backward o && allPin a backward os

end

end Outline

end HttpRouting
