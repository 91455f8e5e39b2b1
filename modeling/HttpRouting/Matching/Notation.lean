/-
Routes in the notation of regular expressions.

* `Binding`: an attribute and the group that captures it;
* `pathNotation`: the text of a path, with numbered groups for its attributes;
* `leafNotation`: the text of the end of a route, which names its method and marks its index;
* `alternation`: one of several texts;
* `subject`: the text in which such patterns are searched, a path and a method.
-/
import HttpRouting.Matching.Outcome
import HttpRouting.Route.Table

namespace HttpRouting

/-- An attribute and the name of the group that captures it. -/
abbrev Binding := String × String

/-! ### Names of groups -/

/-- The name of the group with a number. -/
def groupName (n : Nat) : String :=
  "g" ++ toString n

/-- The name of the empty group that marks the end of a route. -/
def markName (index : Nat) : String :=
  "m" ++ toString index

/-- A named group around a text. -/
def namedGroup (name : String) (body : List Char) : List Char :=
  "(?P<".toList ++ name.toList ++ '>' :: body ++ [')']

/-! ### Paths -/

/-- The text of an attribute: the pattern of its type, in the group with a number. -/
def attributeNotation (type : AttributeType) (n : Nat) : List Char :=
  namedGroup (groupName n) type.pattern.toList

/-- The text of an optional rest. -/
def optionalNotation (inner : List Char) : List Char :=
  "(?:".toList ++ inner ++ ")?".toList

/-- The text of a path. Its attributes take the numbers from `n` on. -/
def pathNotation (registry : TypeRegistry) : Path → Nat → List Char
  | .empty, _ => []
  | .literal text next, n => escapeLiteral text.toList ++ pathNotation registry next n
  | .attr _ typeName next, n =>
    attributeNotation (registry.typeOf typeName) n ++ pathNotation registry next (n + 1)
  | .optional inner, n => optionalNotation (pathNotation registry inner n)

/-- The groups of the attributes of a path, which take the numbers from `n` on. -/
def pathBindings (p : Path) (n : Nat) : List Binding :=
  p.attributeNames.zipIdx n |>.map fun (name, i) => (name, groupName i)

/-! ### Ends and alternatives -/

/-- What separates a path from a method. No method holds a brace. -/
def separator : List Char := ['{', '}']

/-- The text of the end of a route. -/
def leafNotation (method : Method) (index : Nat) : List Char :=
  escapeLiteral separator ++ escapeLiteral method.name.toList ++ namedGroup (markName index) []

/-- The text in which marked patterns are searched. -/
def subject (path method : List Char) : List Char :=
  path ++ separator ++ method

/-- One of several texts, between bars. -/
def bars (alternatives : List (List Char)) : List Char :=
  ['|'].intercalate alternatives

/-- One of several texts as a group. -/
def alternativeGroup (alternatives : List (List Char)) : List Char :=
  "(?:".toList ++ bars alternatives ++ [')']

/-- One of several texts. A single one stands for itself. -/
def alternation : List (List Char) → List Char
  | [only] => only
  | alternatives => alternativeGroup alternatives

/-- The pattern that matches a text as a whole. -/
def anchored (body : List Char) : List Char :=
  '^' :: body ++ ['$']

/-! ### Captures -/

/-- The values that a match gives to attributes. Groups that took no part give none. -/
def captureAll (m : Pattern.Match) (bindings : List Binding) : Captures :=
  bindings.filterMap fun (name, group) => (m.group? group).map fun v => (name, String.ofList v)

/-- The groups of a path belong to its attributes, in their order. -/
theorem map_fst_pathBindings (p : Path) (n : Nat) :
    (pathBindings p n).map (·.1) = p.attributeNames := by
  simp [pathBindings, List.map_map, Function.comp_def]

end HttpRouting
