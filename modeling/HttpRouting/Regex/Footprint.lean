/-
The memory that a regular expression takes as an automaton over bytes.

* `Direction`: the automaton reads a text forward, or backward;
* `setSize`, `wordsSize`: the size of a set, and of a fork between words;
* `Outline.size`: the size of an outline;
* `Outline.automatonSize`: the size of the automaton, with its start and end;
* `Outline.fits`: whether both automata stay within `maxSize`.

A state takes 32 bytes. A state with several ways on takes 8 bytes more for each way that reads a
byte, and 4 for each that reads none.
-/
import HttpRouting.Regex.Outline
import HttpRouting.Text.Encoding

namespace HttpRouting

/-- The direction in which an automaton reads. -/
inductive Direction where
  | forward
  | backward
deriving DecidableEq, Repr

/-! ### Sizes of states -/

/-- The size of a state with one way on. -/
def stateSize : Nat := 32

/-- The size of a state with `n` ways on that read a byte. -/
def readerSize (n : Nat) : Nat :=
  stateSize + 8 * n

/-- The size of a state with `n` ways on that read nothing. -/
def splitSize (n : Nat) : Nat :=
  stateSize + 4 * n

/-- Several sizes together. -/
def addAll (sizes : List Nat) : Nat :=
  sizes.foldl (· + ·) 0

/-! ### Sets -/

/-- Lists by their first elements: neighbours with the same one together, without it. -/
def groupByHead {α : Type} [DecidableEq α] : List (List α) → List (α × List (List α))
  | [] => []
  | [] :: rest => groupByHead rest
  | (a :: as) :: rest =>
    match groupByHead rest with
    | (b, tails) :: groups =>
      if a = b then (a, as :: tails) :: groups else (a, [as]) :: (b, tails) :: groups
    | [] => [(a, [as])]

/-- What can be left to read of encodings, as far as something is left, in at most `n` steps. -/
def remainders : Nat → List (List Text.ByteRange) → List (List (List Text.ByteRange))
  | 0, _ => []
  | n + 1, seqs =>
    if seqs.all (·.isEmpty) then []
    else seqs :: (groupByHead seqs).flatMap fun (_, tails) => remainders n tails

/-- How many elements two lists begin with in common. -/
def commonPrefix {α : Type} [DecidableEq α] : List α → List α → Nat
  | a :: as, b :: bs => if a = b then commonPrefix as bs + 1 else 0
  | _, _ => 0

/-- The number of beginnings that lists have, each counted once. Lists with a common beginning
are neighbours. -/
def prefixCount {α : Type} [DecidableEq α] (before : List α) : List (List α) → Nat
  | [] => 0
  | as :: rest => as.length - commonPrefix before as + prefixCount as rest

/-- The size of a set. ASCII characters are one byte. Otherwise a state stands for what is left to
read of an encoding, or in the other direction for a beginning that is left to read. -/
def setSize (d : Direction) (rs : List Text.CodeRange) : Nat :=
  if rs.all (·.2 < 128) then readerSize rs.length + stateSize
  else
    let seqs := rs.flatMap Text.encodings
    match d with
    | .forward =>
      stateSize +
        addAll ((remainders 5 seqs).eraseDups.map fun seqs => readerSize (groupByHead seqs).length)
    | .backward => splitSize seqs.length + stateSize + stateSize * prefixCount [] seqs

/-! ### Words -/

/-- The bytes of a text, in the order of a direction. -/
def bytesOf (d : Direction) (text : List Char) : List Nat :=
  let bytes := text.flatMap Text.encoding
  match d with
  | .forward => bytes
  | .backward => bytes.reverse

/-- Words up to each one that is empty. -/
def runs : List (List Nat) → List (List (List Nat))
  | [] => [[]]
  | [] :: rest => [] :: runs rest
  | word :: rest =>
    match runs rest with
    | run :: more => (word :: run) :: more
    | [] => [[word]]

/-- Words by their first bytes, without them. -/
def groupByFirst (words : List (List Nat)) : List (List (List Nat)) :=
  (words.filterMap List.head?).eraseDups.map fun b =>
    words.filterMap fun
      | [] => none
      | c :: word => if c = b then some word else none

/-- The size of a state that leads to the first bytes of words. -/
def leadSize (count : Nat) : Nat :=
  if count = 1 then stateSize else readerSize count

/-- The size of the tree of some words, in at most `n` steps. A word that ends where others go on
splits these into the ones before and after it. -/
def treeSize : Nat → List (List Nat) → Nat
  | 0, _ => 0
  | n + 1, words =>
    if words.all (·.isEmpty) then 0
    else
      let ended := words.head?.any (·.isEmpty)
      let parts := runs (words.dropWhile (·.isEmpty))
      let lead := (parts.filter (!·.isEmpty)).map groupByFirst
      let ends := parts.length - 1 + if ended then 1 else 0
      splitSize (lead.length + ends) +
        addAll (lead.map fun groups => leadSize groups.length + addAll (groups.map (treeSize n)))

/-- The size of a fork between words. -/
def wordsSize (words : List (List Nat)) : Nat :=
  stateSize + treeSize ((words.map List.length).foldl max 0 + 1) words

/-! ### Outlines -/

namespace Outline

/-- The text of a literal. -/
def text? : Outline → Option (List Char)
  | literal text => some text
  | _ => none

/-- The size of a repetition of a body. What may follow any number of rounds costs one split, and
another one if a round can be empty. -/
def countedSize (body least : Nat) (most : Option Nat) (consumes : Bool) : Nat :=
  match least, most with
  | 0, some 1 => splitSize 2 + body + stateSize
  | 0, none => if consumes then body + splitSize 2 else body + 2 * splitSize 2 + stateSize
  | least, none => least * body + splitSize 2
  | least, some most =>
    if least = most then least * body
    else
      (if least = 0 then stateSize else least * body) + stateSize +
        (most - least) * (splitSize 2 + body)

mutual

/-- The size of an outline in the automaton of a direction. -/
def size (d : Direction) : Outline → Nat
  | empty | look _ => stateSize
  | literal text => stateSize * (bytesOf d text).length
  | set rs => setSize d rs
  | capture o =>
    match d with
    | .forward => size d o + 2 * stateSize
    | .backward => size d o
  | counted o least most _ =>
    countedSize (size d o) least most ((o.extent .shortest).any (0 < ·))
  | chain os => totalSize d os
  | fork os =>
    match os.mapM text? with
    | some texts => wordsSize (texts.map (bytesOf d))
    | none => splitSize os.length + stateSize + totalSize d os

/-- The size of several outlines together. -/
def totalSize (d : Direction) : List Outline → Nat
  | [] => 0
  | o :: os => size d o + totalSize d os

end

/-- The size of what comes before an automaton. Where matches can begin anywhere, it is a loop
over all bytes. -/
def leadInSize (isPinned : Bool) : Nat :=
  if isPinned then stateSize else splitSize 2 + readerSize 1 + stateSize

/-- The size of an automaton: what comes before it, the outline, and the final state. In the
forward direction the whole match is reported as a group. -/
def automatonSize (o : Outline) : Direction → Nat
  | .forward => leadInSize (o.pins .start false) + (capture o).size .forward + stateSize
  | .backward => leadInSize (o.pins .stop true) + o.size .backward + stateSize

/-- The size that an automaton may have: ten mebibytes. -/
def maxSize : Nat := 10 * Nat.pow 2 20

/-- Whether the automata of both directions stay within their size. -/
def fits (o : Outline) : Bool :=
  o.automatonSize .forward ≤ maxSize && o.automatonSize .backward ≤ maxSize

end Outline

end HttpRouting
