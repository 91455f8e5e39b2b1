/-
What a regular expression matches: its preferred run from a position.

* `Spot`: a position in a text, with the character before it and the characters after it;
* `Mark`: the start or the end of a named group, met on a run;
* `Regex.run`: the marks of the preferred run that what follows accepts, by backtracking;
* `Regex.search`: the preferred run from the leftmost position that has one.

These are the definitions of meaning. They may take exponential time; `Scanner` computes the same.
-/
import HttpRouting.Regex.Basic

namespace HttpRouting

/-- A position in a text. -/
structure Spot where
  /-- The number of characters before the position. -/
  index : Nat
  /-- The character before the position. -/
  before : Option Char
  /-- The characters after the position. -/
  rest : List Char
deriving Repr

namespace Spot

/-- The position at the start of a text. -/
def ofText (text : List Char) : Spot :=
  ⟨0, none, text⟩

/-- The position one character further. -/
def after (at' : Spot) (c : Char) (rest : List Char) : Spot :=
  ⟨at'.index + 1, some c, rest⟩

end Spot

/-- The start or the end of a named group, and the position where a run met it. -/
inductive Mark where
  | opened (name : String) (index : Nat)
  | closed (name : String) (index : Nat)
deriving DecidableEq, Repr

/-- What follows an expression: from a position, the marks of the preferred way to go on. -/
abbrev Onward := Spot → Option (List Mark)

namespace Regex

/-- Further rounds of a repetition. Each round must consume a character; whether another round
or going on is tried first depends on laziness. -/
def rounds (body : Onward → Onward) (lazy : Bool) (onward : Onward) (p : Spot) :
    Option (List Mark) :=
  let again := body
    (fun q => if _h : q.rest.length < p.rest.length then rounds body lazy onward q else none) p
  if lazy then (onward p).orElse fun _ => again else again.orElse fun _ => onward p
termination_by p.rest.length

/-- The marks of the preferred run of an expression that `onward` accepts. The first round of a
repetition may be empty, which ends the repetition. -/
def run : Regex → Onward → Onward
  | empty, onward, p => onward p
  | set s, onward, p =>
    match p.rest with
    | c :: rest => if s.contains c then onward (p.after c rest) else none
    | [] => none
  | anchor a, onward, p => if a.holds p.before p.rest.head? then onward p else none
  | seq r s, onward, p => r.run (s.run onward) p
  | alt r s, onward, p => (r.run onward p).orElse fun _ => s.run onward p
  | plus r lazy, onward, p =>
    r.run (fun q => if q.rest.length < p.rest.length then rounds r.run lazy onward q
      else onward q) p
  | group name r, onward, p =>
    (r.run (fun q => (onward q).map (.closed name q.index :: ·)) p).map
      (.opened name p.index :: ·)

/-- The preferred run from `p`, or else from the leftmost later position that has one. -/
def searchFrom (r : Regex) (index : Nat) (before : Option Char) :
    List Char → Option (List Mark)
  | [] => r.run (fun _ => some []) ⟨index, before, []⟩
  | c :: rest =>
    (r.run (fun _ => some []) ⟨index, before, c :: rest⟩).orElse fun _ =>
      searchFrom r (index + 1) (some c) rest

/-- The preferred run from the leftmost position of a text that has one. -/
def search (r : Regex) (text : List Char) : Option (List Mark) :=
  r.searchFrom 0 none text

end Regex

end HttpRouting
