/-
Writing the URI of a path.

* `UriError`: why a URI cannot be written, and the wording;
* `Values`, `Values.get?`: values by attribute name, the last of equal names counting;
* `Path.hasValue`: whether an attribute anywhere in a path has a value;
* `Path.uri`: the text of a path with values in place of its attributes;
* `uriPart_literal`, `uriPart_optional_of_not`: the text of a path from that of its parts.
-/
import HttpRouting.AttributeType.Registry
import HttpRouting.Path.Basic

namespace HttpRouting

/-! ### Faults -/

/-- Why a URI cannot be written. -/
inductive UriError where
  | unknownRoute (name : String)
  | missingValue (definition name : String)
  | invalidValue (name value typeName pattern : String)
deriving DecidableEq, Repr

namespace UriError

/-- The wording. -/
def message : UriError → String
  | unknownRoute name => "no route named '" ++ name ++ "'"
  | missingValue definition name =>
    "missing value for attribute '" ++ name ++ "' of '" ++ definition ++ "'"
  | invalidValue name value typeName pattern =>
    "value '" ++ value ++ "' for attribute '" ++ name ++ "' does not match type '" ++ typeName ++
      "' (" ++ pattern ++ ")"

/-- The attribute at fault. -/
def attribute? : UriError → Option String
  | unknownRoute _ => none
  | missingValue _ name | invalidValue name .. => some name

end UriError

/-! ### Values -/

/-- Values by attribute name. -/
abbrev Values := List (String × String)

/-- The value of an attribute: the last one given. -/
def Values.get? (values : Values) (name : String) : Option String :=
  (values.reverse.find? (·.1 == name)).map (·.2)

/-! ### Writing -/

namespace Path

/-- Whether an attribute anywhere in a path has a value. -/
def hasValue (values : Values) (p : Path) : Bool :=
  p.attributeNames.any fun name => (values.get? name).isSome

/-- The value that stands for an attribute of the path with the given definition. -/
def valueOf (registry : TypeRegistry) (values : Values) (definition name : String)
    (typeName : Option String) : Except UriError String :=
  match values.get? name with
  | none => .error (.missingValue definition name)
  | some value =>
    let type := registry.typeOf typeName
    if type.accepts value.toList then .ok value
    else .error (.invalidValue name value type.name type.pattern)

/-- The text of a part of the path with the given definition. An optional rest is written if one
of its attributes has a value, and then all that it needs must have one. -/
def uriPart (registry : TypeRegistry) (values : Values) (definition : String) :
    Path → Except UriError String
  | empty => .ok ""
  | literal text next => do
    return text ++ (← next.uriPart registry values definition)
  | attr name typeName next => do
    let value ← valueOf registry values definition name typeName
    return value ++ (← next.uriPart registry values definition)
  | optional inner =>
    if inner.hasValue values then inner.uriPart registry values definition else .ok ""

/-- The text of a path with values in place of its attributes, after a prefix. -/
def uri (registry : TypeRegistry) (values : Values) (pathPrefix : String) (p : Path) :
    Except UriError String :=
  (p.uriPart registry values p.render).map (pathPrefix ++ ·)

/-! ### Lemmas -/

variable {registry : TypeRegistry} {values : Values} {definition : String}

/-- A literal stands for itself. -/
theorem uriPart_literal (text : String) (next : Path) :
    (literal text next).uriPart registry values definition =
      (next.uriPart registry values definition).map (text ++ ·) := by
  rw [uriPart]
  cases next.uriPart registry values definition <;> rfl

/-- An optional rest without a value is left out. -/
theorem uriPart_optional_of_not {inner : Path} (h : inner.hasValue values = false) :
    (optional inner).uriPart registry values definition = .ok "" := by
  simp [uriPart, h]

end Path

end HttpRouting
