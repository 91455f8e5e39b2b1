/-
How the text of a regular expression is read at a place.

* `FlagChange`: the switches that a text sets or clears;
* `Mode`: those switches that matter to how the following text is read;
* `Mode.skip`: a text without the blanks and comments at its beginning;
* `Mode.take`: the characters of a kind at its beginning;
* `Mode.peek`: the first character after a dash;
* `Mode.allows`, `Mode.restrict`, `Mode.complement?`: which characters and sets may be named.

A verbose text may hold blanks and comments between its characters. An ASCII text knows the ASCII
characters only where it names a set.
-/
import HttpRouting.Regex.CharSet

namespace HttpRouting

/-! ### Switches -/

/-- What a text says about the switches: set, cleared, or left alone. -/
structure FlagChange where
  ignoreCase : Option Bool := none
  dotAll : Option Bool := none
  multiLine : Option Bool := none
  swapLazy : Option Bool := none
  ascii : Option Bool := none
  returns : Option Bool := none
  verbose : Option Bool := none
deriving DecidableEq, Repr

/-- A switch that is set or cleared, unless it was before. -/
def FlagChange.putOnce? (value : Bool) : Option Bool → Option (Option Bool)
  | none => some value
  | some _ => none

/-- The change that also sets or clears the switch with a letter. No switch comes twice. The letter
of Unicode clears the switch of ASCII. -/
def FlagChange.put? (change : FlagChange) (value : Bool) : Char → Option FlagChange
  | 'i' => (putOnce? value change.ignoreCase).map fun v => { change with ignoreCase := v }
  | 's' => (putOnce? value change.dotAll).map fun v => { change with dotAll := v }
  | 'm' => (putOnce? value change.multiLine).map fun v => { change with multiLine := v }
  | 'U' => (putOnce? value change.swapLazy).map fun v => { change with swapLazy := v }
  | 'u' => (putOnce? (!value) change.ascii).map fun v => { change with ascii := v }
  | 'R' => (putOnce? value change.returns).map fun v => { change with returns := v }
  | 'x' => (putOnce? value change.verbose).map fun v => { change with verbose := v }
  | _ => none

/-! ### Modes -/

/-- What a reader found, and the characters after it. -/
abbrev Reading (α : Type) := Option (α × List Char)

/-- How a text is read: whether blanks and comments between its characters are left out, and whether
sets hold ASCII characters only. -/
structure Mode where
  verbose : Bool := false
  ascii : Bool := false
deriving DecidableEq, Repr

namespace Mode

/-- The mode after a change. -/
def apply (m : Mode) (change : FlagChange) : Mode where
  verbose := change.verbose.getD m.verbose
  ascii := change.ascii.getD m.ascii

/-- A change of nothing. -/
@[simp] theorem apply_empty (m : Mode) : m.apply {} = m := rfl

/-! ### Blanks and comments -/

/-- A text without the blanks and comments at its beginning, where `inside` tells whether a comment
goes on. A number sign begins a comment, and the end of the line ends it. -/
def skipTrivia : Bool → List Char → List Char
  | _, [] => []
  | true, c :: cs => skipTrivia (c != '\n') cs
  | false, c :: cs =>
    if Text.isBlank c then skipTrivia false cs
    else if c = '#' then skipTrivia true cs
    else c :: cs

/-- A text without what the mode leaves out at its beginning. -/
def skip (m : Mode) (cs : List Char) : List Char :=
  if m.verbose then skipTrivia false cs else cs

/-- The characters of a kind at the beginning of a text, at most `n`, and what follows them. -/
def take (m : Mode) (p : Char → Bool) : Nat → List Char → List Char × List Char
  | 0, cs => ([], cs)
  | n + 1, cs =>
    match m.skip cs with
    | [] => ([], [])
    | c :: cs =>
      if p c then
        let taken := m.take p n cs
        (c :: taken.1, taken.2)
      else ([], c :: cs)

/-- A number sign at the beginning, and the blanks after it, left out. -/
def dropSign : List Char → List Char
  | '#' :: cs => cs.dropWhile Text.isBlank
  | cs => cs

/-- The first character of a text that follows a dash. The end of the line does not end a comment
here. -/
def peek (m : Mode) (cs : List Char) : Option Char :=
  if m.verbose then (dropSign (cs.dropWhile Text.isBlank)).head? else cs.head?

/-! ### Sets -/

/-- Whether a set may be given by a character. -/
def allows (m : Mode) (c : Char) : Bool :=
  !m.ascii || c.val < 128

/-- The members of a set that count. -/
def restrict (m : Mode) (s : CharSet) : CharSet :=
  if m.ascii then s.inter (.interval '\x00' '\x7f' .exact) else s

/-- A set, or its complement, which is no set of ASCII characters. -/
def complement? (m : Mode) (negated : Bool) (s : CharSet) : Option CharSet :=
  if negated then (if m.ascii then none else some (.compl s)) else some s

end Mode

end HttpRouting
