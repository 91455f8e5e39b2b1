/-
Types of attributes: a name for a pattern that the values of an attribute must match as a whole.

* `TypeDeclaration`: a type as it is declared;
* `AttributeType`: a type whose pattern is sound;
* `AttributeType.accepts`: whether a value matches the whole pattern;
* `TypeError`: the ways in which declarations can be at fault, and their wording;
* `AttributeType.ofDeclaration`: the type of a declaration;
* `AttributeType.eq_iff`: a type is its name, its pattern and whether it is implicit.
-/
import HttpRouting.Regex.Pattern

namespace HttpRouting

/-! ### Names -/

/-- The characters of a name: ASCII letters, digits and the underscore. -/
def isNameCharacter (c : Char) : Bool :=
  c.val < 128 && c.isAlphanum || c == '_'

/-- Whether a text is a name. -/
def isName (s : String) : Bool :=
  !s.toList.isEmpty && s.toList.all isNameCharacter

/-! ### Types -/

/-- A type as it is declared. The implicit type is the one of attributes that name none. -/
structure TypeDeclaration where
  name : String
  pattern : String
  implicit : Bool := false
deriving DecidableEq, Repr

/-- A pattern on its own. -/
def groupedText (pattern : String) : List Char :=
  ['(', '?', ':'] ++ pattern.toList ++ [')']

/-- The pattern that matches a text as a whole. -/
def wholeText (pattern : String) : List Char :=
  '^' :: groupedText pattern ++ ['$']

/-- A type of attributes, with the pattern that its values match as a whole. On its own, the
pattern names no groups. -/
structure AttributeType where
  name : String
  pattern : String
  implicit : Bool
  whole : Pattern
  parse_eq : Pattern.parse? (wholeText pattern) = some whole
  unnamed : (Pattern.parse? (groupedText pattern)).any (·.groupNames.isEmpty) = true

namespace AttributeType

/-- Whether a value matches the whole pattern. -/
def accepts (t : AttributeType) (value : List Char) : Bool :=
  t.whole.isMatch value

/-- A type is its name, its pattern and whether it is implicit. -/
theorem eq_iff {s t : AttributeType} :
    s = t ↔ s.name = t.name ∧ s.pattern = t.pattern ∧ s.implicit = t.implicit := by
  constructor
  · rintro rfl
    exact ⟨rfl, rfl, rfl⟩
  · obtain ⟨_, p, _, w, hw, _⟩ := s
    obtain ⟨_, q, _, v, hv, _⟩ := t
    rintro ⟨hn, hp, hi⟩
    simp only at hn hp hi
    subst hn hp hi
    rw [hw] at hv
    cases hv
    rfl

instance : DecidableEq AttributeType := fun _ _ => decidable_of_iff _ eq_iff.symm

end AttributeType

/-! ### Faults -/

/-- A fault in the declarations of a registry. -/
inductive TypeError where
  | noTypes
  | noImplicit
  | severalImplicit (names : List String)
  | invalidName (name : String)
  | duplicateName (name : String)
  | unknownImplicit (name : String)
  | invalidPattern (name pattern : String)
  | namedGroup (name pattern : String)
deriving DecidableEq, Repr

namespace TypeError

/-- The wording of a fault. -/
def message : TypeError → String
  | noTypes => "types registry must declare at least one type"
  | noImplicit => "types registry has no implicit type"
  | severalImplicit names =>
    "types registry has several implicit types: " ++ ", ".intercalate names
  | invalidName name => "invalid type name '" ++ name ++ "'"
  | duplicateName name => "type '" ++ name ++ "' is declared more than once"
  | unknownImplicit name => "implicit type '" ++ name ++ "' is not declared"
  | invalidPattern name _ => "invalid pattern for type '" ++ name ++ "'"
  | namedGroup name pattern =>
    "pattern for type '" ++ name ++ "' must not declare named groups: " ++ pattern

/-- The type name that a fault is about. -/
def typeName? : TypeError → Option String
  | noTypes | noImplicit | severalImplicit _ => none
  | invalidName name | duplicateName name | unknownImplicit name | invalidPattern name _
  | namedGroup name _ => some name

end TypeError

/-- The type of a declaration. The pattern must be sound on its own, and none of its groups may
report under a name, which would clash with those of a route. -/
def AttributeType.ofDeclaration (d : TypeDeclaration) : Except TypeError AttributeType :=
  match hg : Pattern.parse? (groupedText d.pattern) with
  | none => .error (.invalidPattern d.name d.pattern)
  | some p =>
    if hp : p.groupNames.isEmpty then
      match hw : Pattern.parse? (wholeText d.pattern) with
      | none => .error (.invalidPattern d.name d.pattern)
      | some whole => .ok ⟨d.name, d.pattern, d.implicit, whole, hw, by simp [hg, hp]⟩
    else .error (.namedGroup d.name d.pattern)

end HttpRouting
