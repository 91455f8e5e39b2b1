/-
Building a registry step by step.

* `RegistryBuilder`: declarations and the name chosen as implicit;
* `RegistryBuilder.add`: declares a type, or gives a declared one another pattern;
* `RegistryBuilder.build`: the registry;
* `defaultPatterns`: the built-in types;
* `TypeRegistry.default`: the registry of the built-in types, `any` being implicit.
-/
import HttpRouting.AttributeType.Registry

namespace HttpRouting

/-- Declarations for a registry, and the name chosen as implicit. -/
structure RegistryBuilder where
  declarations : List TypeDeclaration := []
  implicit : Option String := none
deriving DecidableEq, Repr

namespace RegistryBuilder

/-- A builder without declarations. -/
def empty : RegistryBuilder := {}

/-- The builder that declares a type. A name that is declared already keeps its place and takes
the new pattern. -/
def add (b : RegistryBuilder) (name pattern : String) : RegistryBuilder :=
  if b.declarations.any (·.name == name) then
    { b with declarations := b.declarations.map fun d =>
        if d.name = name then { d with pattern } else d }
  else { b with declarations := b.declarations ++ [{ name, pattern }] }

/-- The builder that chooses the implicit type by name. -/
def chooseImplicit (b : RegistryBuilder) (name : String) : RegistryBuilder :=
  { b with implicit := some name }

/-- The declarations with the chosen one marked as implicit. -/
def marked (b : RegistryBuilder) (name : String) : List TypeDeclaration :=
  b.declarations.map fun d => if d.name = name then { d with implicit := true } else d

/-- The registry of the declarations. -/
def build (b : RegistryBuilder) : Except TypeError TypeRegistry :=
  match b.implicit with
  | none => TypeRegistry.ofDeclarations b.declarations
  | some name =>
    if b.declarations.any (·.name == name) then TypeRegistry.ofDeclarations (b.marked name)
    else if b.declarations.isEmpty then .error .noTypes
    else .error (.unknownImplicit name)

end RegistryBuilder

/-! ### The built-in types -/

/-- The names and patterns of the built-in types. -/
def defaultPatterns : List (String × String) :=
  [("any", "[^/]+"), ("alnum", "[a-zA-Z0-9]+"), ("alpha", "[a-zA-Z]+"),
   ("date", "[0-9]\x7b4\x7d-[0-9]\x7b2\x7d-[0-9]\x7b2\x7d"), ("digit", "[0-9]"),
   ("number", "[0-9]+"), ("word", "[a-zA-Z0-9_]+")]

/-- A builder that declares the built-in types, `any` being implicit. -/
def RegistryBuilder.builtIn : RegistryBuilder :=
  (defaultPatterns.foldl (fun b (name, pattern) => b.add name pattern) empty).chooseImplicit "any"

/-- The built-in types make a registry. -/
theorem build_builtIn_isSome : RegistryBuilder.builtIn.build.toOption.isSome = true := by
  decide +kernel

/-- The registry of the built-in types. -/
def TypeRegistry.default : TypeRegistry :=
  RegistryBuilder.builtIn.build.toOption.get build_builtIn_isSome

/-- A computation that succeeds is its result. -/
theorem eq_ok_get {ε α : Type} {x : Except ε α} (h : x.toOption.isSome = true) :
    x = .ok (x.toOption.get h) := by
  cases x with
  | error _ => exact nomatch h
  | ok _ => rfl

/-- The registry of the built-in types is what their builder builds. -/
theorem build_builtIn : RegistryBuilder.builtIn.build = .ok TypeRegistry.default :=
  eq_ok_get build_builtIn_isSome

end HttpRouting
