/-
The backtracking machine with its captures on a stack that is changed in place.

* `Program.Spans`: slices of a text, as the positions between which they lie;
* `Program.FollowAt`: what follows a program, told the position and the stack;
* `Program.runInPlace`: runs a program with dead ends and a look ahead, and takes a slice off the
  stack again when nothing after it is accepted;
* `Program.search`: plain backtracking, without dead ends and without a look ahead;
* `FollowAt.keeping`: keeps the position and the stack that are accepted;
* `Follow.at`, `Spans.read`: the positions and slices as texts, the form of `Program.run`.
-/
import HttpRouting.Matching.Program

namespace HttpRouting.Program

/-- The slices that attributes took of a text, last first: where each begins and ends. -/
abbrev Spans := List (String × Nat × Nat)

/-- What follows a program: from the position reached, the slices and a state of its own, it tells
whether it accepts, and its new state. It leaves the slices as they are. -/
abbrev FollowAt (σ : Type) := Nat → Spans → σ → Bool × σ

variable {σ : Type}

/-! ### The machine in place -/

/-- Asks what follows, with the slices that are on the stack. -/
def ask (follow : FollowAt σ) (pos : Nat) : Carried (Spans × σ) → Bool × Carried (Spans × σ)
  | (dead, spans, s) =>
    let (accepted, s) := follow pos spans s
    (accepted, (dead, spans, s))

/-- Runs with a slice on the stack, and takes it off again if nothing is accepted. -/
def withSpan (span : String × Nat × Nat)
    (attempt : Carried (Spans × σ) → Bool × Carried (Spans × σ)) :
    Carried (Spans × σ) → Bool × Carried (Spans × σ)
  | (dead, spans, s) =>
    match attempt (dead, span :: spans, s) with
    | (true, c) => (true, c)
    | (false, (dead, spans, s)) => (false, (dead, spans.tail, s))

/-- Runs what is left of a program after `steps` steps from a position of a text. -/
def runInPlace (text : List Char) (follow : FollowAt σ) :
    Program → Nat → Nat → Carried (Spans × σ) → Bool × Carried (Spans × σ)
  | done, _, pos, c => ask follow pos c
  | literal piece next, steps, pos, c =>
    if c.1.contains (steps, text.length - pos) then (false, c)
    else note (steps, text.length - pos) <|
      match stripPrefix? piece (text.drop pos) with
      | some _ => next.runInPlace text follow (steps + 1) (pos + piece.length) c
      | none => (false, c)
  | capture name type next, steps, pos, c =>
    if c.1.contains (steps, text.length - pos) then (false, c)
    else note (steps, text.length - pos) <|
      firstEnd (fun n c =>
        let stop := pos + n
        if next.mayBegin (text.drop stop) && !c.1.contains (steps + 1, text.length - stop) &&
            type.accepts ((text.drop pos).take n) then
          withSpan (name, pos, stop) (next.runInPlace text follow (steps + 1) stop) c
        else (false, c)) (text.length - pos) c
  | optional inner, steps, pos, c =>
    if c.1.contains (steps, text.length - pos) then (false, c)
    else note (steps, text.length - pos) <|
      match inner.runInPlace text follow (steps + 1) pos c with
      | (true, c) => (true, c)
      | (false, c) => ask follow pos c

/-! ### Plain backtracking -/

/-- Searches what is left of a program from a position of a text, with the slices so far. -/
def search (text : List Char) (follow : FollowAt σ) : Program → Nat → Spans → σ → Bool × σ
  | done, pos, spans, s => follow pos spans s
  | literal piece next, pos, spans, s =>
    match stripPrefix? piece (text.drop pos) with
    | some _ => next.search text follow (pos + piece.length) spans s
    | none => (false, s)
  | capture name type next, pos, spans, s =>
    firstEnd (fun n s =>
      if type.accepts ((text.drop pos).take n) then
        next.search text follow (pos + n) ((name, pos, pos + n) :: spans) s
      else (false, s)) (text.length - pos) s
  | optional inner, pos, spans, s =>
    match inner.search text follow pos spans s with
    | (true, s) => (true, s)
    | (false, s) => follow pos spans s

/-! ### What is accepted, and what is read -/

/-- Keeps the position and the slices that are accepted. -/
def FollowAt.keeping (follow : FollowAt σ) : FollowAt (σ × Option (Nat × Spans)) :=
  fun pos spans (s, kept) =>
    match follow pos spans s with
    | (true, s) => (true, (s, some (pos, spans)))
    | (false, s) => (false, (s, kept))

/-- The slices as texts. -/
def Spans.read (text : List Char) (spans : Spans) : Captures :=
  spans.map fun (name, start, stop) => (name, String.ofList ((text.drop start).take (stop - start)))

/-- What follows a program, told the rest of the text and the slices as texts. -/
def Follow.at (follow : Follow σ) (text : List Char) : FollowAt σ :=
  fun pos spans s => follow (text.drop pos) (spans.read text) s

end HttpRouting.Program
