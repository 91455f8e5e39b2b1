/-
Sets of characters, as a bracketed class or an escape of a regular expression names them.

* `CharSet`: intervals, tables, the Unicode classes, unions and complements;
* `CharSet.contains`: membership;
* `CharSet.ignoreCase`: the set that forgets case;
* `CharSet.inter`, `CharSet.diff`, `CharSet.symmDiff`: the derived operations;
* `CharSet.ranges`: the intervals that make up a set;
* `contains_single`, `contains_union`, `contains_compl`: membership in the compound sets.
-/
import HttpRouting.Text.Blank
import HttpRouting.Text.Case
import HttpRouting.Text.DecimalDigit
import HttpRouting.Text.WordChar

namespace HttpRouting

/-- A set of characters. An interval and a table may disregard case. The Unicode classes hold all
forms of a character or none. -/
inductive CharSet where
  | none
  | interval (first last : Char) (folding : Text.Folding)
  | table (members : Text.Edges) (folding : Text.Folding)
  | digit
  | blank
  | word
  | union (s t : CharSet)
  | compl (s : CharSet)
deriving DecidableEq, Repr

namespace CharSet

/-! ### Membership -/

/-- Whether a character lies between two others. -/
def between (first last c : Char) : Bool :=
  first ≤ c && c ≤ last

/-- Whether a character belongs to the set. -/
def contains : CharSet → Char → Bool
  | none, _ => false
  | interval first last folding, c => (folding.forms c).any (between first last)
  | table members folding, c => (folding.forms c).any fun d => members.contains d.toNat
  | digit, c => Text.isDecimalDigit c
  | blank, c => Text.isBlank c
  | word, c => Text.isWordChar c
  | union s t, c => s.contains c || t.contains c
  | compl s, c => !s.contains c

/-- The set of one character. -/
def single (c : Char) : CharSet :=
  interval c c .exact

/-- Every character. -/
def all : CharSet :=
  compl none

/-- Every character but the line feed. -/
def notNewline : CharSet :=
  compl (single '\n')

/-- Every character but the line feed and the carriage return. -/
def notLineEnd : CharSet :=
  compl (union (single '\n') (single '\r'))

/-- The same set with every interval and table disregarding case. -/
def ignoreCase (folding : Text.Folding) : CharSet → CharSet
  | interval first last _ => interval first last folding
  | table members _ => table members folding
  | union s t => union (s.ignoreCase folding) (t.ignoreCase folding)
  | compl s => compl (s.ignoreCase folding)
  | s => s

/-! ### Derived operations -/

/-- The characters in both sets. -/
def inter (s t : CharSet) : CharSet :=
  compl (union (compl s) (compl t))

/-- The characters in the first set only. -/
def diff (s t : CharSet) : CharSet :=
  inter s (compl t)

/-- The characters in exactly one of two sets. -/
def symmDiff (s t : CharSet) : CharSet :=
  union (diff s t) (diff t s)

/-! ### Intervals -/

/-- The code points of one interval. -/
def intervalEdges (first last : Char) : Text.Edges :=
  if first ≤ last then .ofRanges [(first.toNat, last.toNat)] else []

/-- The code points of a set. -/
def edges : CharSet → Text.Edges
  | none => []
  | interval first last folding => folding.close (intervalEdges first last)
  | table members folding => folding.close members
  | digit => .ofRanges ((0x30, 0x39) :: Text.decimalDigitRanges)
  | blank => .ofRanges Text.blankRanges
  | word => Text.wordEdges
  | union s t => .union s.edges t.edges
  | compl s => .compl s.edges

/-- The intervals that make up a set, in increasing order. -/
def ranges (s : CharSet) : List Text.CodeRange :=
  s.edges.toRanges

/-! ### Lemmas -/

/-- A character lies in the one-character interval exactly if it is that character. -/
theorem between_self {a c : Char} : between a a c = true ↔ c = a := by
  simp only [between, Bool.and_eq_true, decide_eq_true_eq]
  exact ⟨fun h => Char.le_antisymm h.2 h.1, fun h => h ▸ ⟨Char.le_refl _, Char.le_refl _⟩⟩

/-- The set of one character holds this one only. -/
@[simp] theorem contains_single {a c : Char} : (single a).contains c = true ↔ c = a := by
  simp [single, contains, Text.Folding.forms, between_self]

/-- A union holds the characters of both sets. -/
@[simp] theorem contains_union {s t : CharSet} {c : Char} :
    (union s t).contains c = true ↔ s.contains c = true ∨ t.contains c = true := by
  simp [contains]

/-- A complement holds the characters that the set does not. -/
@[simp] theorem contains_compl {s : CharSet} {c : Char} :
    (compl s).contains c = true ↔ ¬ s.contains c = true := by
  simp [contains]

end CharSet

end HttpRouting
