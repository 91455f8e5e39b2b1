/-
From tokens to a phrase.

* `Flags`: the switches in force at a place, and what they make of sets, dots and anchors;
* `Level`: the branches and items read so far inside one group;
* `Assembly`: the current level and the groups around it;
* `Assembly.step?`: the effect of one token;
* `Phrase.ofTokens?`: the phrase of a sequence of tokens;
* `Assembly.run?_append`: reading two sequences in a row is reading their concatenation.

A repetition needs an item before it, and every group must be closed.
-/
import HttpRouting.Regex.Phrase

namespace HttpRouting

/-- The switches in force: whether letters disregard case, whether the dot matches a line feed
too, whether a caret and a dollar are about lines, whether repetitions are lazy unless they say so,
whether characters are ASCII characters, and whether lines end at carriage returns as well. -/
structure Flags where
  ignoreCase : Bool := false
  dotAll : Bool := false
  multiLine : Bool := false
  swapLazy : Bool := false
  ascii : Bool := false
  returns : Bool := false
deriving DecidableEq, Repr

/-- The switches after a change. -/
def Flags.apply (f : Flags) (change : FlagChange) : Flags where
  ignoreCase := change.ignoreCase.getD f.ignoreCase
  dotAll := change.dotAll.getD f.dotAll
  multiLine := change.multiLine.getD f.multiLine
  swapLazy := change.swapLazy.getD f.swapLazy
  ascii := change.ascii.getD f.ascii
  returns := change.returns.getD f.returns

namespace Flags

/-- The set that is meant by one that is written. -/
def setOf (f : Flags) (s : CharSet) : CharSet :=
  if f.ignoreCase then s.ignoreCase (if f.ascii then .ascii else .full) else s

/-- What a dot matches. -/
def dot (f : Flags) : CharSet :=
  if f.dotAll then .all else if f.returns then .notLineEnd else .notNewline

/-- What a caret asks for. -/
def caret (f : Flags) : Anchor :=
  if f.multiLine then .lineStart f.returns else .start

/-- What a dollar asks for. -/
def dollar (f : Flags) : Anchor :=
  if f.multiLine then .lineStop f.returns else .stop

end Flags

/-- What has been read inside one group: the complete branches, and the items of the current one,
both last first. -/
structure Level where
  branches : List Phrase := []
  items : List Phrase := []
  flags : Flags := {}

namespace Level

/-- The items of the current branch in a row. -/
def current (l : Level) : Phrase :=
  .concat l.items.reverse

/-- Everything read at this level: the current branch, or one of several. -/
def phrase (l : Level) : Phrase :=
  .choice (l.current :: l.branches).reverse

/-- The level with one more item. -/
def push (l : Level) (p : Phrase) : Level :=
  { l with items := p :: l.items }

/-- The level with other switches from here on. -/
def switch (l : Level) (change : FlagChange) : Level :=
  { l.push .switches with flags := l.flags.apply change }

/-- The level with another branch. -/
def fork (l : Level) : Level :=
  { l with branches := l.current :: l.branches, items := [] }

/-- The level with its last item repeated, if there is one that can be. -/
def repeatLast? (l : Level) (least : Nat) (most : Option Nat) (lazy : Bool) : Option Level :=
  match l.items with
  | p :: items =>
    if p.isRepeatable then
      some { l with items := .repetition p least most (lazy != l.flags.swapLazy) :: items }
    else none
  | [] => none

end Level

/-- The current level, and around it the open groups with the levels they interrupt, innermost
first. -/
structure Assembly where
  level : Level := {}
  groups : List (GroupKind × Level) := []

namespace Assembly

/-- The assembly with one more item. -/
def push (a : Assembly) (p : Phrase) : Assembly :=
  { a with level := a.level.push p }

/-- The effect of one token. -/
def step? (a : Assembly) : Token → Option Assembly
  | .set s nesting => some (a.push (.set (a.level.flags.setOf s) nesting))
  | .dot => some (a.push (.set a.level.flags.dot 0))
  | .caret => some (a.push (.anchor a.level.flags.caret))
  | .dollar => some (a.push (.anchor a.level.flags.dollar))
  | .anchor k => some (a.push (.anchor k))
  | .opening kind change =>
    some ⟨{ flags := a.level.flags.apply change }, (kind, a.level) :: a.groups⟩
  | .flags change => some { a with level := a.level.switch change }
  | .closing =>
    match a.groups with
    | [] => none
    | (kind, outer) :: groups => some ⟨outer.push (.group kind a.level.phrase), groups⟩
  | .bar => some { a with level := a.level.fork }
  | .repetition least most lazy =>
    (a.level.repeatLast? least most lazy).map fun level => { a with level }

/-- The effect of a sequence of tokens. -/
def run? (a : Assembly) : List Token → Option Assembly
  | [] => some a
  | t :: ts => (a.step? t).bind (run? · ts)

/-- Reading two sequences in a row is reading their concatenation. -/
theorem run?_append (a : Assembly) (ts us : List Token) :
    a.run? (ts ++ us) = (a.run? ts).bind (run? · us) := by
  induction ts generalizing a with
  | nil => rfl
  | cons t ts ih => cases h : a.step? t <;> simp [run?, h, ih]

/-- The phrase, if every group is closed. -/
def finish? (a : Assembly) : Option Phrase :=
  if a.groups.isEmpty then some a.level.phrase else none

end Assembly

/-- The phrase of a sequence of tokens. -/
def Phrase.ofTokens? (ts : List Token) : Option Phrase :=
  (({} : Assembly).run? ts).bind Assembly.finish?

end HttpRouting
