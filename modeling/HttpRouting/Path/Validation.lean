/-
Checking a path that was not read from a definition.

* `Path.repeatedNames`: the attribute names that occur more than once;
* `Path.unknownType?`: the first attribute with a type that a registry lacks;
* `Path.validate`: a path has neither.
-/
import HttpRouting.AttributeType.Registry
import HttpRouting.Path.Basic
import HttpRouting.Path.Fault

namespace HttpRouting.Path

/-- The names in a list that repeat a name in `seen` or an earlier one. Each is listed once, in
the order of the second occurrences. -/
def repeatsAfter (seen repeated : List String) : List String → List String
  | [] => repeated
  | name :: names =>
    if seen.contains name then
      repeatsAfter seen (if repeated.contains name then repeated else repeated ++ [name]) names
    else repeatsAfter (seen ++ [name]) repeated names

/-- The attribute names that occur more than once, in the order of their second occurrences. -/
def repeatedNames (p : Path) : List String :=
  repeatsAfter [] [] p.attributeNames

/-- The first attribute with a type that a registry lacks, and that type. -/
def unknownType? (registry : TypeRegistry) : Path → Option (String × String)
  | empty => none
  | literal _ next => next.unknownType? registry
  | attr name typeName next =>
    match typeName with
    | none => next.unknownType? registry
    | some typeName =>
      if (registry.find? typeName).isNone then some (name, typeName)
      else next.unknownType? registry
  | optional inner => inner.unknownType? registry

/-- Checks that attribute names are distinct and that types are known. Repeated names are
reported first, and all of them. -/
def validate (registry : TypeRegistry) (p : Path) : Except DefinitionError Unit :=
  if p.repeatedNames.isEmpty then
    match p.unknownType? registry with
    | none => .ok ()
    | some (name, typeName) => .error (.unknownType name typeName)
  else .error (.ambiguousAttributes p.repeatedNames)

end HttpRouting.Path
