/-
Matchers: a table of routes made ready for matching.

* `Matcher`: what each strategy makes of a table;
* `CompileError`: a strategy whose pattern was refused, and the wording;
* `Matcher.compile`: the matcher of a table;
* `Matcher.find`: the outcome for a method and a path;
* `Matcher.texts`: the texts of the regular expressions behind a matcher.
-/
import HttpRouting.Matching.Linear
import HttpRouting.Matching.MarkedPattern
import HttpRouting.Matching.PatternPerRoute
import HttpRouting.Matching.Strategy
import HttpRouting.Matching.TreeWalk

namespace HttpRouting

/-- A table made ready for matching. -/
inductive Matcher where
  | multiPattern (p : PatternPerRoute)
  | singlePattern (p : MarkedPattern)
  | treePattern (p : MarkedPattern)
  | linear (l : LinearMatcher)
  | tree (a : Arena)

/-- A strategy whose pattern was refused. -/
structure CompileError where
  strategy : Strategy
deriving DecidableEq, Repr

/-- The wording. -/
def CompileError.message (e : CompileError) : String :=
  e.strategy.name ++ " strategy could not build its pattern"

namespace Matcher

variable {α : Type}

/-- The matcher of a table, if its patterns are accepted. -/
def compile? (t : RouteTable α) : Strategy → Option Matcher
  | .multiPattern => (PatternPerRoute.ofTable? t).map multiPattern
  | .singlePattern => (MarkedPattern.ofTable? t).map singlePattern
  | .treePattern => (MarkedPattern.ofForest? t (Forest.ofTable t)).map treePattern
  | .linear => some (linear (LinearMatcher.ofTable t))
  | .tree => some (tree (Arena.ofForest (Forest.ofTable t)))

/-- The matcher of a table. -/
def compile (t : RouteTable α) (s : Strategy) : Except CompileError Matcher :=
  match compile? t s with
  | some m => .ok m
  | none => .error ⟨s⟩

/-- The strategy of a matcher. -/
def strategy : Matcher → Strategy
  | multiPattern _ => .multiPattern
  | singlePattern _ => .singlePattern
  | treePattern _ => .treePattern
  | linear _ => .linear
  | tree _ => .tree

/-- The outcome for a method and a path. -/
def find : Matcher → String → String → Outcome
  | multiPattern p => p.find
  | singlePattern p => p.find
  | treePattern p => p.find
  | linear l => l.find
  | tree a => a.find

/-- The text of the one regular expression behind a matcher. -/
def text? : Matcher → Option String
  | singlePattern p | treePattern p => p.pattern?.map fun (text, _) => String.ofList text
  | _ => none

/-- The texts of all regular expressions behind a matcher. -/
def texts : Matcher → List String
  | multiPattern p => p.routes.map fun r => String.ofList r.text
  | m => m.text?.toList

end Matcher

end HttpRouting
