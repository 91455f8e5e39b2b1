/-
Registries of attribute types, one of which is implicit.

* `TypeRegistry`: types in the order of their declaration, and the implicit one among them;
* `TypeRegistry.ofDeclarations`: the registry of a list of declarations;
* `TypeRegistry.find?`, `TypeRegistry.resolve?`, `TypeRegistry.typeOf`: looking up a type by name;
* `TypeRegistry.implicitType_mem`: the implicit type is one of the types.
-/
import HttpRouting.AttributeType.Basic

namespace HttpRouting

/-- Attribute types in the order of their declaration. Exactly one is implicit. -/
structure TypeRegistry where
  types : List AttributeType
  implicitType : AttributeType
  filter_implicit : types.filter (·.implicit) = [implicitType]
deriving DecidableEq

namespace TypeRegistry

/-! ### Declaring -/

/-- The types of the declarations after the types `done`. Names are tokens and come once. -/
def typesOf (done : List AttributeType) :
    List TypeDeclaration → Except TypeError (List AttributeType)
  | [] => .ok []
  | d :: ds =>
    if !isName d.name then .error (.invalidName d.name)
    else if done.any (·.name == d.name) then .error (.duplicateName d.name)
    else
      match AttributeType.ofDeclaration d with
      | .error e => .error e
      | .ok t => (typesOf (done ++ [t]) ds).map (t :: ·)

/-- The registry of some types, if exactly one of them is implicit. -/
def ofTypes (types : List AttributeType) : Except TypeError TypeRegistry :=
  match h : types.filter (·.implicit) with
  | [] => .error .noImplicit
  | [t] => .ok ⟨types, t, h⟩
  | several => .error (.severalImplicit (several.map (·.name)))

/-- The registry of a list of declarations. -/
def ofDeclarations (ds : List TypeDeclaration) : Except TypeError TypeRegistry :=
  if ds.isEmpty then .error .noTypes
  else
    match typesOf [] ds with
    | .error e => .error e
    | .ok types => ofTypes types

/-! ### Looking up -/

/-- The type with a name. -/
def find? (r : TypeRegistry) (name : String) : Option AttributeType :=
  r.types.find? (·.name == name)

/-- The type that an attribute names, or the implicit type if it names none. -/
def resolve? (r : TypeRegistry) : Option String → Option AttributeType
  | some name => r.find? name
  | none => some r.implicitType

/-- The type of an attribute. A name that the registry lacks stands for the implicit type. -/
def typeOf (r : TypeRegistry) (name : Option String) : AttributeType :=
  (r.resolve? name).getD r.implicitType

/-- The number of types. -/
def size (r : TypeRegistry) : Nat :=
  r.types.length

/-! ### Lemmas -/

/-- The implicit type is one of the types. -/
theorem implicitType_mem (r : TypeRegistry) : r.implicitType ∈ r.types := by
  have h : r.implicitType ∈ r.types.filter (·.implicit) := by
    rw [r.filter_implicit]
    exact List.mem_singleton_self _
  exact (List.mem_filter.1 h).1

end TypeRegistry

end HttpRouting
