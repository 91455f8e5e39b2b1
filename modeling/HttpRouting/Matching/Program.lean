/-
Programs that match a path, and a backtracking machine that runs them.

* `Program`: literals and captures in a row, and last an optional rest;
* `Program.ofPath`: the program of a route path;
* `Program.run`: runs a program and hands each way through it to what follows, until that
  accepts one. Captures try the longest slice first, and an optional rest is entered before it is
  skipped;
* `Program.captures?`: the captures of the preferred way through a program that takes a whole
  path.

The machine notes the dead ends it met: a point of the program and a position from which nothing
was accepted. It never tries one twice, so each is tried once.
-/
import HttpRouting.AttributeType.Registry
import HttpRouting.Matching.Outcome
import HttpRouting.Path.Basic
import Std.Data.HashSet

namespace HttpRouting

/-- A program that matches a path. -/
inductive Program where
  | done
  | literal (text : List Char) (next : Program)
  | capture (name : String) (type : AttributeType) (next : Program)
  | optional (inner : Program)
deriving DecidableEq

/-- The rest of a text after a text that it begins with. -/
def stripPrefix? : List Char → List Char → Option (List Char)
  | [], cs => some cs
  | _ :: _, [] => none
  | a :: text, c :: cs => if a = c then stripPrefix? text cs else none

/-- A text begins with another exactly if it is that text and the rest. -/
theorem stripPrefix?_eq_some_iff {text cs rest : List Char} :
    stripPrefix? text cs = some rest ↔ cs = text ++ rest := by
  induction text generalizing cs with
  | nil => simp [stripPrefix?]
  | cons a text ih =>
    cases cs with
    | nil => simp [stripPrefix?]
    | cons c cs =>
      by_cases h : a = c
      · simp [stripPrefix?, h, ih]
      · simp [stripPrefix?, h, Ne.symm h]

namespace Program

/-- The program of a route path. -/
def ofPath (registry : TypeRegistry) : Path → Program
  | .empty => done
  | .literal text next => literal text.toList (ofPath registry next)
  | .attr name typeName next => capture name (registry.typeOf typeName) (ofPath registry next)
  | .optional inner => optional (ofPath registry inner)

/-! ### Running -/

/-- The dead ends of a program: the number of steps before the point, and the number of characters
after the position. -/
abbrev DeadEnds := Std.HashSet (Nat × Nat)

/-- What the machine carries along: the dead ends, and a state of what follows the program. -/
abbrev Carried (σ : Type) := DeadEnds × σ

/-- What follows a program: from the rest of the path, the captures (last first) and a state, it
tells whether it accepts, and its new state. -/
abbrev Follow (σ : Type) := List Char → Captures → σ → Bool × σ

/-- Tries the ends from the largest to the smallest, until one is accepted. -/
def firstEnd {τ : Type} (attempt : Nat → τ → Bool × τ) : Nat → τ → Bool × τ
  | 0, s => attempt 0 s
  | n + 1, s =>
    match attempt (n + 1) s with
    | (true, s) => (true, s)
    | (false, s) => firstEnd attempt n s

/-- Whether the literal that a program begins with, if it does, comes next. -/
def mayBegin : Program → List Char → Bool
  | literal text _, cs => (stripPrefix? text cs).isSome
  | _, _ => true

/-- The result of an attempt at a point of the program, where a failure is a dead end. -/
def note {σ : Type} (point : Nat × Nat) : Bool × Carried σ → Bool × Carried σ
  | (true, s) => (true, s)
  | (false, (dead, s)) => (false, (dead.insert point, s))

/-- Runs what is left of a program after `steps` steps on the rest of a path. -/
def run {σ : Type} (follow : Follow σ) :
    Program → Nat → List Char → Captures → Carried σ → Bool × Carried σ
  | done, _, rest, bound, (dead, s) =>
    let (accepted, s) := follow rest bound s
    (accepted, (dead, s))
  | literal text next, steps, rest, bound, (dead, s) =>
    if dead.contains (steps, rest.length) then (false, (dead, s))
    else note (steps, rest.length) <|
      match stripPrefix? text rest with
      | some rest => next.run follow (steps + 1) rest bound (dead, s)
      | none => (false, (dead, s))
  | capture name type next, steps, rest, bound, (dead, s) =>
    if dead.contains (steps, rest.length) then (false, (dead, s))
    else note (steps, rest.length) <|
      firstEnd (fun n (dead, s) =>
        let after := rest.drop n
        if next.mayBegin after && !dead.contains (steps + 1, after.length) &&
            type.accepts (rest.take n) then
          next.run follow (steps + 1) after ((name, String.ofList (rest.take n)) :: bound) (dead, s)
        else (false, (dead, s))) rest.length (dead, s)
  | optional inner, steps, rest, bound, (dead, s) =>
    if dead.contains (steps, rest.length) then (false, (dead, s))
    else note (steps, rest.length) <|
      match inner.run follow (steps + 1) rest bound (dead, s) with
      | (true, s) => (true, s)
      | (false, (dead, s)) =>
        let (accepted, s) := follow rest bound s
        (accepted, (dead, s))

/-- Accepts at the end of the path, and keeps the captures. -/
def acceptAtEnd : Follow (Option Captures) := fun rest bound s =>
  if rest.isEmpty then (true, some bound.reverse) else (false, s)

/-- The captures of the preferred way through a program that takes a whole path. -/
def captures? (p : Program) (path : List Char) : Option Captures :=
  (p.run acceptAtEnd 0 path [] (∅, none)).2.2

end Program

end HttpRouting
