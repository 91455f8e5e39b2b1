/-
The ways in which a table of routes can be matched.

* `Strategy`: the five ways;
* `Strategy.name`, `Strategy.ofName?`: their names;
* `Strategy.isPattern`: whether a way rests on regular expressions.
-/

namespace HttpRouting

/-- A way to match a table of routes. -/
inductive Strategy where
  | multiPattern
  | singlePattern
  | treePattern
  | linear
  | tree
deriving DecidableEq, Repr

namespace Strategy

/-- Every strategy. -/
def all : List Strategy :=
  [multiPattern, singlePattern, treePattern, linear, tree]

/-- The strategy that is used where none is named. -/
def default : Strategy := treePattern

/-- The name of a strategy. -/
def name : Strategy → String
  | multiPattern => "multi_pattern"
  | singlePattern => "single_pattern"
  | treePattern => "tree_pattern"
  | linear => "linear"
  | tree => "tree"

/-- The strategy with a name. -/
def ofName? (s : String) : Option Strategy :=
  all.find? (·.name == s)

/-- The wording for a name that no strategy has. -/
def unknownMessage (s : String) : String :=
  "unknown strategy '" ++ s ++ "', expected one of " ++ ", ".intercalate (all.map name)

/-- Whether a strategy rests on regular expressions. -/
def isPattern : Strategy → Bool
  | multiPattern | singlePattern | treePattern => true
  | linear | tree => false

end Strategy

end HttpRouting
