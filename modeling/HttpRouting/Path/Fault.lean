/-
Faults of route definitions.

* `DefinitionError`: what is wrong with a definition;
* `DefinitionError.index?`: the character position of a syntax error;
* `DefinitionError.message`: the wording, with a caret under the position.
-/

namespace HttpRouting

/-- The number of characters that a name in a definition may have. -/
def maxNameLength : Nat := 32

/-- What is wrong with a route definition. Positions count characters from zero. -/
inductive DefinitionError where
  | unexpectedEnd (index : Nat) (expected : List Char)
  | unexpectedChar (found : Char) (index : Nat) (expected : List Char)
  | attributeNameMissing (index : Nat)
  | attributeNameTooLong (name : String) (index : Nat)
  | typeNameMissing (index : Nat)
  | typeNameTooLong (typeName : String) (index : Nat)
  | optionalNotSuffix (index : Nat)
  | ambiguousAttributes (names : List String)
  | unknownType (name typeName : String)
deriving DecidableEq, Repr

namespace DefinitionError

/-- The position of a syntax error. A definition that contradicts itself or its registry has
none. -/
def index? : DefinitionError → Option Nat
  | unexpectedEnd index _ | unexpectedChar _ index _ | attributeNameMissing index
  | attributeNameTooLong _ index | typeNameMissing index | typeNameTooLong _ index
  | optionalNotSuffix index => some index
  | ambiguousAttributes _ | unknownType .. => none

/-- Whether the grammar refuses the definition. -/
def isSyntaxError (e : DefinitionError) : Bool :=
  e.index?.isSome

/-! ### Wording -/

/-- A text in quotes. -/
def quoted (s : String) : String :=
  "'" ++ s ++ "'"

/-- The characters that would have been accepted. -/
def expectation : List Char → String
  | [] => ""
  | [c] => ", expected " ++ quoted (String.singleton c)
  | cs => ", expected one of " ++ ", ".intercalate (cs.map fun c => quoted (String.singleton c))

/-- The definition with a caret under a position. -/
def pointer (definition : String) (index : Nat) : String :=
  "\n" ++ definition ++ "\n" ++ String.ofList (List.replicate index ' ') ++ "^"

/-- The wording of what is wrong with a definition. -/
def message (definition : String) : DefinitionError → String
  | unexpectedEnd index expected =>
    "unexpected end of definition" ++ expectation expected ++ pointer definition index
  | unexpectedChar found index expected =>
    "unexpected " ++ quoted (String.singleton found) ++ " at index " ++ toString index ++
      expectation expected ++ pointer definition index
  | attributeNameMissing index =>
    "attribute name missing at index " ++ toString index ++ pointer definition index
  | attributeNameTooLong name index =>
    "attribute name " ++ quoted name ++ " is too long at index " ++ toString index ++
      pointer definition index
  | typeNameMissing index =>
    "attribute type missing at index " ++ toString index ++ pointer definition index
  | typeNameTooLong typeName index =>
    "attribute type " ++ quoted typeName ++ " is too long at index " ++ toString index ++
      pointer definition index
  | optionalNotSuffix index =>
    "optional sequence must be a suffix, found more input at index " ++ toString index ++
      pointer definition index
  | ambiguousAttributes names =>
    "ambiguous attribute name(s) " ++ ", ".intercalate (names.map quoted) ++ " in " ++
      quoted definition
  | unknownType name typeName =>
    "unknown type " ++ quoted typeName ++ " for attribute " ++ quoted name ++ " in " ++
      quoted definition

end DefinitionError

end HttpRouting
