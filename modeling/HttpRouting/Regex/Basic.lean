/-
Regular expressions with a preference among their runs.

* `WordEdge`, `Anchor`: conditions on the characters around a position;
* `Regex`: the expressions;
* `Regex.optional`, `Regex.star`, `Regex.times`, `Regex.upTo`, `Regex.repeated`: the derived
  repetitions;
* `Regex.ofList`, `Regex.anyOf`: concatenation and alternation of a list.

The first alternative, and the longer repetition unless it is lazy, is preferred.
-/
import HttpRouting.Regex.CharSet

namespace HttpRouting

/-! ### Anchors -/

/-- A condition on the word characters around a position. -/
inductive WordEdge where
  | edge
  | notEdge
  | start
  | stop
  /-- No word character before the position. -/
  | afterNoWord
  /-- No word character after the position. -/
  | beforeNoWord
deriving DecidableEq, Repr

/-- A condition on the characters before and after a position. Lines may end at carriage returns as
well, and words may be made of ASCII characters only. -/
inductive Anchor where
  | start
  | stop
  | lineStart (returns : Bool)
  | lineStop (returns : Bool)
  | word (kind : WordEdge) (ascii : Bool)
deriving DecidableEq, Repr

/-- Whether the condition holds between a place with and one without a word character. -/
def WordEdge.holds (before after : Bool) : WordEdge → Bool
  | edge => before != after
  | notEdge => before == after
  | start => !before && after
  | stop => before && !after
  | afterNoWord => !before
  | beforeNoWord => !after

namespace Anchor

/-- Whether a word character is there. -/
def isWord (ascii : Bool) (c : Option Char) : Bool :=
  c.any fun c => Text.isWordChar c && (!ascii || c.val < 128)

/-- Whether the condition holds between the characters `before` and `after`. A carriage return and a
line feed end one line together. -/
def holds (before after : Option Char) : Anchor → Bool
  | start => before.isNone
  | stop => after.isNone
  | lineStart false => before.all (· == '\n')
  | lineStop false => after.all (· == '\n')
  | lineStart true => before.all (· == '\n') || before == some '\r' && after != some '\n'
  | lineStop true => after.all (· == '\r') || after == some '\n' && before != some '\r'
  | word kind ascii => kind.holds (isWord ascii before) (isWord ascii after)

end Anchor

/-! ### Expressions -/

/-- A regular expression. `plus` repeats its body once or more, and a named group reports where
its body matched. -/
inductive Regex where
  | empty
  | set (s : CharSet)
  | anchor (a : Anchor)
  | seq (r s : Regex)
  | alt (r s : Regex)
  | plus (r : Regex) (lazy : Bool)
  | group (name : String) (r : Regex)
deriving DecidableEq, Repr

namespace Regex

/-- The body or nothing. -/
def optional (r : Regex) (lazy : Bool) : Regex :=
  if lazy then alt empty r else alt r empty

/-- Any number of repetitions. -/
def star (r : Regex) (lazy : Bool) : Regex :=
  optional (plus r lazy) lazy

/-- Exactly `n` repetitions, followed by `after`. -/
def times (r after : Regex) : Nat → Regex
  | 0 => after
  | n + 1 => seq r (times r after n)

/-- At most `n` repetitions. -/
def upTo (r : Regex) (lazy : Bool) : Nat → Regex
  | 0 => empty
  | n + 1 => optional (seq r (upTo r lazy n)) lazy

/-- At least `least` repetitions, and at most `most` if there is a bound. -/
def repeated (r : Regex) (least : Nat) (most : Option Nat) (lazy : Bool) : Regex :=
  match most, least with
  | some most, least => times r (upTo r lazy (most - least)) least
  | none, 0 => star r lazy
  | none, least + 1 => times r (plus r lazy) least

/-- The concatenation of a list. -/
def ofList : List Regex → Regex
  | [] => empty
  | [r] => r
  | r :: rs => seq r (ofList rs)

/-- The alternation of a first expression and the others. -/
def anyOf (r : Regex) : List Regex → Regex
  | [] => r
  | s :: rest => alt r (anyOf s rest)

end Regex

end HttpRouting
