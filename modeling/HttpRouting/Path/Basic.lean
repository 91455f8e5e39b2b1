/-
Route paths.

* `Path`: literals and attributes in a row, and last an optional rest;
* `Path.render`: the definition text of a path;
* `Attribute`, `Path.attributes`: the attributes of a path in the order of its definition;
* `attributes_optional`: the attributes of an optional rest are not required.
-/

namespace HttpRouting

/-- A route path. An optional rest reaches to the end of the path that holds it. -/
inductive Path where
  | empty
  | literal (text : String) (next : Path)
  | attr (name : String) (typeName : Option String) (next : Path)
  | optional (inner : Path)
deriving DecidableEq, Repr

/-- An attribute that a path declares. -/
structure Attribute where
  name : String
  typeName : Option String
  required : Bool
deriving DecidableEq, Repr

namespace Path

/-! ### Text -/

/-- The definition text of an attribute. -/
def renderAttribute (name : String) : Option String → String
  | some typeName => "\x7b" ++ name ++ ":" ++ typeName ++ "\x7d"
  | none => "\x7b" ++ name ++ "\x7d"

/-- The definition text of a path. -/
def render : Path → String
  | empty => ""
  | literal text next => text ++ next.render
  | attr name typeName next => renderAttribute name typeName ++ next.render
  | optional inner => "[" ++ inner.render ++ "]"

/-! ### Attributes -/

/-- The attributes of a path, required or not. -/
def attributesAs (required : Bool) : Path → List Attribute
  | empty => []
  | literal _ next => next.attributesAs required
  | attr name typeName next => ⟨name, typeName, required⟩ :: next.attributesAs required
  | optional inner => inner.attributesAs false

/-- The attributes of a path in the order of its definition. Those in an optional rest are not
required. -/
def attributes (p : Path) : List Attribute :=
  p.attributesAs true

/-- The names of the attributes of a path in the order of its definition. -/
def attributeNames : Path → List String
  | empty => []
  | literal _ next => next.attributeNames
  | attr name _ next => name :: next.attributeNames
  | optional inner => inner.attributeNames

/-- Whether a path declares no attribute. -/
def isStatic (p : Path) : Bool :=
  p.attributes.isEmpty

/-- Whether a path has no parts at all. -/
def isEmpty : Path → Bool
  | empty => true
  | _ => false

/-! ### Lemmas -/

/-- The names of the attributes do not depend on what is required. -/
theorem map_name_attributesAs (required : Bool) (p : Path) :
    (p.attributesAs required).map (·.name) = p.attributeNames := by
  induction p generalizing required <;> simp [attributesAs, attributeNames, *]

/-- The attributes of an optional rest are not required. -/
theorem attributes_optional (p : Path) : (optional p).attributes = p.attributesAs false := rfl

/-- No attribute of an optional rest is required. -/
theorem required_of_mem_attributesAs_false {p : Path} {a : Attribute}
    (h : a ∈ p.attributesAs false) : a.required = false := by
  induction p with
  | empty => exact nomatch h
  | literal _ _ ih => exact ih h
  | attr _ _ _ ih =>
    rcases List.mem_cons.1 h with rfl | h
    · rfl
    · exact ih h
  | optional _ ih => exact ih h

end Path

end HttpRouting
