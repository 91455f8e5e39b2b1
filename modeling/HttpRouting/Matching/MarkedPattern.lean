/-
Matching with one regular expression for all routes.

* `MarkedPattern`: a pattern whose alternatives end in the marks of routes, with the groups of the
  routes' attributes;
* `MarkedPattern.find`: the route whose mark a match meets;
* `routeAlternatives`: the routes of a table side by side;
* `forestAlternatives`: the trees of a forest side by side, common literals written once.
-/
import HttpRouting.Forest.Basic
import HttpRouting.Matching.Notation

namespace HttpRouting

/-! ### Marked patterns -/

/-- A pattern for all routes of a table. It is searched in a path followed by a method. -/
structure MarkedPattern where
  /-- The pattern and its text. Without routes there is none. -/
  pattern? : Option (List Char × Pattern)
  /-- The groups of each route's attributes. -/
  bindings : List (List Binding)
  /-- The methods of the routes. -/
  methods : List Method

namespace MarkedPattern

/-- The pattern with a body, or none without one, unless its text is refused. -/
def ofBody? (body : Option (List Char)) (bindings : List (List Binding)) (methods : List Method) :
    Option MarkedPattern :=
  match body with
  | none => some ⟨none, bindings, methods⟩
  | some body =>
    (Pattern.parse? (anchored body)).map fun p => ⟨some (anchored body, p), bindings, methods⟩

/-- The route with the smallest index whose mark a match met. -/
def markedRoute? (p : MarkedPattern) (m : Pattern.Match) : Option Nat :=
  (List.range p.bindings.length).find? fun index => (m.group? (markName index)).isSome

/-- The route that matches a path with a method, and its captures. -/
def lookup? (p : MarkedPattern) (path method : List Char) : Option (Nat × Captures) := do
  let (_, pattern) ← p.pattern?
  let m ← pattern.match? (subject path method)
  let index ← p.markedRoute? m
  return (index, captureAll m (p.bindings[index]?.getD []))

/-- The methods that match a path, each with its route. -/
def allowed (p : MarkedPattern) (path : List Char) : AllowedMethods :=
  p.methods.foldl (fun a m =>
    match p.lookup? path m.name.toList with
    | some (index, _) => a.record m index
    | none => a) {}

/-- The route that matches a path with a method. Only a token can be a method. -/
def find (p : MarkedPattern) (method path : String) : Outcome :=
  match if isMethodToken method then p.lookup? path.toList method.toList else none with
  | some (index, captures) => .matched index captures
  | none => (p.allowed path.toList).outcome

end MarkedPattern

/-! ### Routes side by side -/

/-- The texts of routes and the groups of their attributes. The first route has the given index,
and its attributes take the numbers from `n` on. -/
def routeAlternatives {α : Type} (index n : Nat) :
    List (Route α) → List (List Char × List Binding)
  | [] => []
  | r :: rs =>
    (pathNotation r.registry r.path n ++ leafNotation r.method index, pathBindings r.path n) ::
      routeAlternatives (index + 1) (n + r.path.attributeNames.length) rs

/-- The pattern of a table with the routes side by side. -/
def MarkedPattern.ofTable? {α : Type} (t : RouteTable α) : Option MarkedPattern :=
  let alternatives := routeAlternatives 0 0 t.routes
  let body := if alternatives.isEmpty then none else some (alternativeGroup (alternatives.map (·.1)))
  ofBody? body (alternatives.map (·.2)) t.methods

/-! ### Trees side by side -/

/-- The number of groups in the text of a segment. -/
def Segment.groupCount : Segment → Nat
  | literal _ => 0
  | attr .. => 1
  | optional inner _ => inner.attributeNames.length

/-- The number of groups in the texts of several segments. -/
def groupTotal : List Segment → Nat
  | [] => 0
  | s :: ss => s.groupCount + groupTotal ss

/-- The text of a segment. Its attributes take the numbers from `n` on. -/
def segmentNotation (n : Nat) : Segment → List Char
  | .literal text => escapeLiteral text.toList
  | .attr _ type => attributeNotation type n
  | .optional inner registry => optionalNotation (pathNotation registry inner n)

/-- The groups of the attributes of a segment, which take the numbers from `n` on. -/
def segmentBindings (n : Nat) : Segment → List Binding
  | .literal _ => []
  | .attr name _ => [(name, groupName n)]
  | .optional inner _ => pathBindings inner n

/-- The text of a way to a leaf. -/
def chainNotation (index : Nat) (method : Method) : Nat → List Segment → List Char
  | _, [] => leafNotation method index
  | n, s :: ss => segmentNotation n s ++ chainNotation index method (n + s.groupCount) ss

/-- The groups of the attributes on a way to a leaf. -/
def chainBindings : Nat → List Segment → List Binding
  | _, [] => []
  | n, s :: ss => segmentBindings n s ++ chainBindings (n + s.groupCount) ss

/-- The texts of several ways side by side, the groups of their leaves, and the next number. -/
def chainAlternatives (n : Nat) : List (List Segment × Nat × Method) →
    List (List Char) × List (Nat × List Binding) × Nat
  | [] => ([], [], n)
  | (ss, index, method) :: rest =>
    let (texts, bindings, next) := chainAlternatives (n + groupTotal ss) rest
    (chainNotation index method n ss :: texts, (index, chainBindings n ss) :: bindings, next)

/-- The texts of the trees of a row, the groups of their leaves, and the next number. A literal is
written once for all that is below it. From the first attribute on, every way to a leaf is written
on its own. -/
def forestAlternatives (n : Nat) : Forest → List (List Char) × List (Nat × List Binding) × Nat
  | .empty => ([], [], n)
  | .leaf index method right =>
    let (texts, bindings, n) := forestAlternatives n right
    (leafNotation method index :: texts, (index, []) :: bindings, n)
  | .branch s below right =>
    let (text, inner, n) := match s with
      | .literal text =>
        let (texts, bindings, n) := forestAlternatives n below
        (escapeLiteral text.toList ++ alternation texts, bindings, n)
      | s =>
        let (texts, bindings, n) :=
          chainAlternatives n (below.chains.map fun (ss, e) => (s :: ss, e))
        (alternation texts, bindings, n)
    let (texts, bindings, n) := forestAlternatives n right
    (text :: texts, inner ++ bindings, n)

/-- The groups of the routes in the order of their indices. -/
def bindingsByIndex (count : Nat) (bindings : List (Nat × List Binding)) : List (List Binding) :=
  (List.range count).map fun index => ((bindings.find? (·.1 == index)).map (·.2)).getD []

/-- The pattern of a table with the trees of its forest side by side. -/
def MarkedPattern.ofForest? {α : Type} (t : RouteTable α) (f : Forest) : Option MarkedPattern :=
  let (texts, bindings, _) := forestAlternatives 0 f
  let body := if texts.isEmpty then none else some ("(?:".toList ++ alternation texts ++ [')'])
  ofBody? body (bindingsByIndex t.size bindings) t.methods

end HttpRouting
