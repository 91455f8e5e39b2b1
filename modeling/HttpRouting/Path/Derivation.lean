/-
The texts that a path stands for.

* `Path.Derives`: a path stands for a text, with values for its attributes;
* `derives_literal_iff`, `derives_attr_iff`, `derives_optional_iff`: what that means for the parts
  of a path.
-/
import HttpRouting.AttributeType.Registry
import HttpRouting.Path.Basic

namespace HttpRouting.Path

/-- A path stands for a text, with values for the attributes that take part. An optional rest
stands for what its path stands for, or for nothing. -/
inductive Derives (registry : TypeRegistry) : Path → List Char → List (String × String) → Prop where
  | empty : Derives registry empty [] []
  | literal {text : String} {next : Path} {cs : List Char} {values : List (String × String)}
      (rest : Derives registry next cs values) :
      Derives registry (literal text next) (text.toList ++ cs) values
  | attr {name : String} {typeName : Option String} {next : Path} {value cs : List Char}
      {values : List (String × String)} (accepts : (registry.typeOf typeName).accepts value = true)
      (rest : Derives registry next cs values) :
      Derives registry (attr name typeName next) (value ++ cs) ((name, String.ofList value) :: values)
  | taken {inner : Path} {cs : List Char} {values : List (String × String)}
      (rest : Derives registry inner cs values) : Derives registry (optional inner) cs values
  | skipped {inner : Path} : Derives registry (optional inner) [] []

variable {registry : TypeRegistry} {cs : List Char} {values : List (String × String)}

/-- The empty path stands for the empty text. -/
theorem derives_empty_iff : Derives registry empty cs values ↔ cs = [] ∧ values = [] := by
  constructor
  · intro h
    cases h
    exact ⟨rfl, rfl⟩
  · rintro ⟨rfl, rfl⟩
    exact .empty

/-- A literal stands for itself. -/
theorem derives_literal_iff {text : String} {next : Path} :
    Derives registry (literal text next) cs values ↔
      ∃ rest, cs = text.toList ++ rest ∧ Derives registry next rest values := by
  constructor
  · intro h
    cases h with
    | literal rest => exact ⟨_, rfl, rest⟩
  · rintro ⟨rest, rfl, h⟩
    exact .literal h

/-- An attribute stands for a text that its type accepts. -/
theorem derives_attr_iff {name : String} {typeName : Option String} {next : Path} :
    Derives registry (attr name typeName next) cs values ↔
      ∃ value rest others, cs = value ++ rest ∧ values = (name, String.ofList value) :: others ∧
        (registry.typeOf typeName).accepts value = true ∧ Derives registry next rest others := by
  constructor
  · intro h
    cases h with
    | attr accepts rest => exact ⟨_, _, _, rfl, rfl, accepts, rest⟩
  · rintro ⟨value, rest, others, rfl, rfl, accepts, h⟩
    exact .attr accepts h

/-- An optional rest stands for what its path stands for, or for nothing. -/
theorem derives_optional_iff {inner : Path} :
    Derives registry (optional inner) cs values ↔
      Derives registry inner cs values ∨ cs = [] ∧ values = [] := by
  constructor
  · intro h
    cases h with
    | taken rest => exact .inl rest
    | skipped => exact .inr ⟨rfl, rfl⟩
  · rintro (h | ⟨rfl, rfl⟩)
    · exact .taken h
    · exact .skipped

end HttpRouting.Path
