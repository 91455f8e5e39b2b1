/-
Searching a text in one pass, from its last position to its first.

* `Scanner`: an expression that remembers, for each place where a character is consumed, how the
  preferred run went on one position later;
* `Scanner.value`: the preferred run from a position, read off the memory;
* `Scanner.advance`: that run, and the memory for the position before;
* `Scanner.search`: the preferred run from the leftmost position of a text that has one.

Each position costs one walk over the expression, where backtracking can cost exponentially many.
-/
import HttpRouting.Regex.Run

namespace HttpRouting

/-- A position as a scanner meets it: its index and the characters around it. -/
structure Place where
  index : Nat
  before : Option Char
  after : Option Char

/-- An expression with, at each character set, the marks of the preferred way to go on from the
position after that character. -/
inductive Scanner where
  | empty
  | set (s : CharSet) (next : Option (List Mark))
  | anchor (a : Anchor)
  | seq (r s : Scanner)
  | alt (r s : Scanner)
  | plus (r : Scanner) (lazy : Bool)
  | group (name : String) (r : Scanner)

namespace Scanner

/-- The scanner of an expression before any position was met: nothing goes on. -/
def ofRegex : Regex → Scanner
  | .empty => empty
  | .set s => set s none
  | .anchor a => anchor a
  | .seq r s => seq (ofRegex r) (ofRegex s)
  | .alt r s => alt (ofRegex r) (ofRegex s)
  | .plus r lazy => plus (ofRegex r) lazy
  | .group name r => group name (ofRegex r)

/-- The marks of the preferred run from a place, if `onward` is how it goes on there. -/
def value (p : Place) : Scanner → Option (List Mark) → Option (List Mark)
  | empty, onward => onward
  | set s next, _ => if p.after.any s.contains then next else none
  | anchor a, onward => if a.holds p.before p.after then onward else none
  | seq r s, onward => r.value p (s.value p onward)
  | alt r s, onward => (r.value p onward).orElse fun _ => s.value p onward
  | plus r _, onward => r.value p onward
  | group name r, onward =>
    (r.value p (onward.map (.closed name p.index :: ·))).map (.opened name p.index :: ·)

/-- How a repetition goes on after a round that ends at a place: with a round that consumes, or
with what follows the repetition. -/
def again (p : Place) (r : Scanner) (lazy : Bool) (onward : Option (List Mark)) :
    Option (List Mark) :=
  if lazy then onward.orElse fun _ => r.value p none
  else (r.value p none).orElse fun _ => onward

/-- The marks of the preferred run from a place, and the scanner that remembers the place. -/
def advance (p : Place) : Scanner → Option (List Mark) → Option (List Mark) × Scanner
  | empty, onward => (onward, empty)
  | set s next, onward => (if p.after.any s.contains then next else none, set s onward)
  | anchor a, onward => (if a.holds p.before p.after then onward else none, anchor a)
  | seq r s, onward =>
    let (v, s) := s.advance p onward
    let (v, r) := r.advance p v
    (v, seq r s)
  | alt r s, onward =>
    let (v, r) := r.advance p onward
    let (w, s) := s.advance p onward
    (v.orElse fun _ => w, alt r s)
  | plus r lazy, onward =>
    (r.value p onward, plus (r.advance p (again p r lazy onward)).2 lazy)
  | group name r, onward =>
    let (v, r) := r.advance p (onward.map (.closed name p.index :: ·))
    (v.map (.opened name p.index :: ·), group name r)

/-- The scanner after the positions of a text, and the preferred run from the leftmost position
that has one. -/
def sweep (r : Scanner) (index : Nat) (before : Option Char) :
    List Char → Option (List Mark) × Scanner
  | [] => r.advance ⟨index, before, none⟩ (some [])
  | c :: rest =>
    let (later, r) := r.sweep (index + 1) (some c) rest
    let (here, r) := r.advance ⟨index, before, some c⟩ (some [])
    (here.orElse fun _ => later, r)

/-- The preferred run from the leftmost position of a text that has one. -/
def search (r : Regex) (text : List Char) : Option (List Mark) :=
  ((ofRegex r).sweep 0 none text).1

end Scanner

end HttpRouting
