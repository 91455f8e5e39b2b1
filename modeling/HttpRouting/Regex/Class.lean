/-
Bracketed classes in the notation of regular expressions.

* `ClassPart`: a part of a class, with its set;
* `ClassOperator`: an operator between parts;
* `OpenClass`: a class that is being read;
* `OpenClass.readItem?`: an element, or an interval between two;
* `OpenClass.readNamed?`: a set with a name;
* `OpenClass.begin?`: the beginning of a class, after its bracket;
* `OpenClass.read?`: the rest of a class;
* `ClassPart.read?`: a class, after its bracket.

Brackets nest in a class. The readers give `none` on a text that does not follow the notation.
-/
import HttpRouting.Regex.Escape

namespace HttpRouting

/-! ### Parts -/

/-- A part of a class: its set, and how deep brackets and operators nest in it. -/
structure ClassPart where
  set : CharSet
  depth : Nat := 0

/-- An operator between two parts of a class. -/
inductive ClassOperator where
  | inter
  | diff
  | symmDiff

/-- The set of two parts. -/
def ClassOperator.apply : ClassOperator → CharSet → CharSet → CharSet
  | inter => .inter
  | diff => .diff
  | symmDiff => .symmDiff

/-- A class that is being read: whether its complement is meant, what stands before its last
operator, and the items after that, last first. -/
structure OpenClass where
  negated : Bool
  left : Option (ClassPart × ClassOperator) := none
  items : List ClassPart := []

namespace OpenClass

/-- The class with one more item. -/
def add (k : OpenClass) (p : ClassPart) : OpenClass :=
  { k with items := p :: k.items }

/-- The items after the last operator. Several of them nest one level deeper than one. -/
def operand (k : OpenClass) : ClassPart :=
  ⟨k.items.foldr (fun p s => .union s p.set) .none,
    (k.items.map (·.depth)).foldl max 0 + if k.items.length < 2 then 0 else 1⟩

/-- Everything read so far. Operators associate to the left. -/
def content (k : OpenClass) : ClassPart :=
  match k.left with
  | none => k.operand
  | some (l, op) => ⟨op.apply l.set k.operand.set, max l.depth k.operand.depth + 1⟩

/-- The class with an operator after everything read so far. -/
def operate (k : OpenClass) (op : ClassOperator) : OpenClass :=
  { k with left := some (k.content, op), items := [] }

/-- What the class denotes. -/
def close (k : OpenClass) : ClassPart :=
  ⟨if k.negated then .compl k.content.set else k.content.set, k.content.depth + 1⟩

/-! ### Items -/

/-- An element of a class: a character, or a set that an escape names. -/
def readElement? (m : Mode) : List Char → Reading (Char ⊕ CharSet)
  | [] => none
  | '\\' :: cs =>
    match Escape.read? m cs with
    | some (.char c, cs) => if m.allows c then some (.inl c, cs) else none
    | some (.set s, cs) => some (.inr s, cs)
    | _ => none
  | c :: cs => if m.allows c then some (.inl c, cs) else none

/-- The set of an element. -/
def elementSet : Char ⊕ CharSet → CharSet
  | .inl c => .single c
  | .inr s => s

/-- The interval from an element on. It must lie between two characters. -/
def readInterval? (m : Mode) (first : Char ⊕ CharSet) (cs : List Char) : Reading CharSet :=
  match first, readElement? m (m.skip cs) with
  | .inl a, some (.inl b, cs) => if a ≤ b then some (.interval a b .exact, cs) else none
  | _, _ => none

/-- An element, or an interval between two characters. A dash before the closing bracket, or
before another dash, is not part of an interval. -/
def readItem? (m : Mode) (cs : List Char) : Reading CharSet :=
  (readElement? m cs).bind fun (first, cs) =>
    match m.skip cs with
    | '-' :: rest =>
      if m.peek rest = some ']' ∨ m.peek rest = some '-' then some (elementSet first, cs)
      else readInterval? m first rest
    | _ => some (elementSet first, cs)

/-! ### Sets with a name -/

/-- The classes that have a name, by their intervals. -/
def namedIntervals? : String → Option (List (Char × Char))
  | "alnum" => some [('0', '9'), ('A', 'Z'), ('a', 'z')]
  | "alpha" => some [('A', 'Z'), ('a', 'z')]
  | "ascii" => some [('\x00', '\x7f')]
  | "blank" => some [('\t', '\t'), (' ', ' ')]
  | "cntrl" => some [('\x00', '\x1f'), ('\x7f', '\x7f')]
  | "digit" => some [('0', '9')]
  | "graph" => some [('!', '~')]
  | "lower" => some [('a', 'z')]
  | "print" => some [(' ', '~')]
  | "punct" => some [('!', '/'), (':', '@'), ('[', '\x60'), ('\x7b', '~')]
  | "space" => some [('\t', '\r'), (' ', ' ')]
  | "upper" => some [('A', 'Z')]
  | "word" => some [('0', '9'), ('A', 'Z'), ('_', '_'), ('a', 'z')]
  | "xdigit" => some [('0', '9'), ('A', 'F'), ('a', 'f')]
  | _ => none

/-- The set of some intervals. -/
def intervalSet (intervals : List (Char × Char)) : CharSet :=
  intervals.foldl (fun s (a, b) => .union s (.interval a b .exact)) .none

/-- Whether the complement of a named set is meant, and what follows the caret that says so. -/
def skipCaret : List Char → Bool × List Char
  | '^' :: cs => (true, cs)
  | cs => (false, cs)

/-- The set of a name between colons, and whether its complement is meant, after the bracket that
opens it. -/
def readNamed? : List Char → Reading (Bool × CharSet)
  | ':' :: cs =>
    let (negated, cs) := skipCaret cs
    match namedIntervals? (String.ofList (cs.takeWhile (· != ':'))), cs.dropWhile (· != ':') with
    | some intervals, ':' :: ']' :: rest => some ((negated, intervalSet intervals), rest)
    | _, _ => none
  | _ => none

/-! ### Classes -/

/-- The first items of a class: dashes, or a closing bracket that stands for itself. -/
def beginItems (m : Mode) (negated : Bool) (cs : List Char) : OpenClass × List Char :=
  match m.take (· == '-') cs.length cs with
  | ([], ']' :: rest) => ({ negated, items := [⟨.single ']', 0⟩] }, rest)
  | (dashes, rest) => ({ negated, items := dashes.map fun c => ⟨.single c, 0⟩ }, rest)

/-- The beginning of a class, after its bracket: a caret, dashes, and a closing bracket that
stands for itself if it comes first. -/
def begin? (m : Mode) (cs : List Char) : Reading OpenClass :=
  let (negated, cs) := skipCaret (m.skip cs)
  if negated && m.ascii then none else some (beginItems m negated cs)

/-- The rest of a class that stands inside the classes `outer`. Every step reads a character, so
the length of the text bounds the number of steps. -/
def read? (m : Mode) : Nat → OpenClass → List OpenClass → List Char → Reading ClassPart
  | 0, _, _, _ => none
  | n + 1, k, outer, cs =>
    match m.skip cs with
    | [] => none
    | '[' :: cs =>
      match readNamed? cs with
      | some ((negated, s), cs) =>
        match m.complement? negated s with
        | some s => read? m n (k.add ⟨s, 0⟩) outer cs
        | none => none
      | none =>
        match begin? m cs with
        | some (inner, cs) => read? m n inner (k :: outer) cs
        | none => none
    | ']' :: cs =>
      match outer with
      | [] => some (k.close, cs)
      | k' :: outer => read? m n (k'.add k.close) outer cs
    | '&' :: '&' :: cs => read? m n (k.operate .inter) outer cs
    | '-' :: '-' :: cs => read? m n (k.operate .diff) outer cs
    | '~' :: '~' :: cs => read? m n (k.operate .symmDiff) outer cs
    | cs =>
      match readItem? m cs with
      | some (s, cs) => read? m n (k.add ⟨s, 0⟩) outer cs
      | none => none

end OpenClass

/-- A class, after its bracket. -/
def ClassPart.read? (m : Mode) (cs : List Char) : Reading ClassPart :=
  (OpenClass.begin? m cs).bind fun (k, cs) => OpenClass.read? m (cs.length + 1) k [] cs

end HttpRouting
