/-
Calls that build a registry.

* `BuilderCall`: a call, with what it is given;
* `BuilderCall.declared?`, `BuilderCall.chosen?`: what it declares, and what it makes implicit;
* `BuilderCall.after`, `BuilderCall.afterAll`: the builder after calls;
* `BuilderStart`: the builders to start from, with what they declare and make implicit.
-/
import HttpRouting.AttributeType.Builder

namespace HttpRouting

/-- A call on a builder. -/
inductive BuilderCall where
  | add (name pattern : String)
  | chooseImplicit (name : String)
deriving DecidableEq, Repr

namespace BuilderCall

/-- The name and the pattern that a call declares. -/
def declared? : BuilderCall → Option (String × String)
  | add name pattern => some (name, pattern)
  | chooseImplicit _ => none

/-- The name that a call makes implicit. -/
def chosen? : BuilderCall → Option String
  | add _ _ => none
  | chooseImplicit name => some name

/-- The builder after a call. -/
def after (b : RegistryBuilder) : BuilderCall → RegistryBuilder
  | add name pattern => b.add name pattern
  | chooseImplicit name => b.chooseImplicit name

/-- The builder after calls in a row. -/
def afterAll (b : RegistryBuilder) (calls : List BuilderCall) : RegistryBuilder :=
  calls.foldl after b

end BuilderCall

/-- A builder to start from: without declarations, or with the built-in types. -/
inductive BuilderStart where
  | empty
  | builtIn
deriving DecidableEq, Repr

namespace BuilderStart

/-- The builder. -/
def builder : BuilderStart → RegistryBuilder
  | empty => .empty
  | builtIn => .builtIn

/-- The names and patterns that it declares. -/
def patterns : BuilderStart → List (String × String)
  | empty => []
  | builtIn => defaultPatterns

/-- The name that it makes implicit. -/
def implicit? : BuilderStart → Option String
  | empty => none
  | builtIn => some "any"

end BuilderStart

end HttpRouting
