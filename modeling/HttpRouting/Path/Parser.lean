/-
Reading a route definition.

    path      = (literal | attribute | optional)*
    literal   = characters other than the brackets and braces
    attribute = "{" name (":" type)? "}"
    optional  = "[" path "]", at the end of the path that holds it

* `Path.Progress`: a reader's position, with the attribute names so far;
* `Path.readName`: the name up to one of the given characters;
* `Path.readPath`: a path up to the closing bracket or the end;
* `Path.parse`: the path of a definition, in which names are distinct and types are known.
-/
import HttpRouting.AttributeType.Registry
import HttpRouting.Path.Basic
import HttpRouting.Path.Fault

namespace HttpRouting.Path

/-- The characters that end a literal. -/
def isDelimiter (c : Char) : Bool :=
  c == '{' || c == '}' || c == '[' || c == ']'

/-! ### Names -/

/-- A name, up to one of the characters in `stops`, and what follows it from that character on. -/
def readName (stops : List Char) (index : Nat) (cs : List Char) :
    Except DefinitionError (List Char × List Char) :=
  let name := cs.takeWhile isNameCharacter
  match cs.dropWhile isNameCharacter with
  | [] => .error (.unexpectedEnd (index + name.length) stops)
  | c :: rest =>
    if stops.contains c then .ok (name, c :: rest)
    else .error (.unexpectedChar c (index + name.length) stops)

/-- The name of an attribute that begins at `index`. It differs from the names in `seen`. -/
def readAttributeName (seen : List String) (index : Nat) (cs : List Char) :
    Except DefinitionError (String × List Char) := do
  let (name, rest) ← readName [':', '}'] index cs
  if name.isEmpty then throw (.attributeNameMissing index)
  if name.length > maxNameLength then
    throw (.attributeNameTooLong (String.ofList name) index)
  if seen.contains (String.ofList name) then
    throw (.ambiguousAttributes [String.ofList name])
  return (String.ofList name, rest)

/-- The type name that begins at `index`. The registry knows it. -/
def readTypeName (registry : TypeRegistry) (owner : String) (index : Nat) (cs : List Char) :
    Except DefinitionError (String × List Char) := do
  let (name, rest) ← readName ['}'] index cs
  if name.isEmpty then throw (.typeNameMissing index)
  if name.length > maxNameLength then throw (.typeNameTooLong (String.ofList name) index)
  if (registry.find? (String.ofList name)).isNone then
    throw (.unknownType owner (String.ofList name))
  return (String.ofList name, rest)

/-- The inside of the braces that were opened before `index`: the name, the type if there is one,
and what follows the closing brace. -/
def readAttribute (registry : TypeRegistry) (seen : List String) (index : Nat) (cs : List Char) :
    Except DefinitionError (String × Option String × List Char) := do
  let (name, rest) ← readAttributeName seen index cs
  match rest with
  | ':' :: rest =>
    let (typeName, rest) ← readTypeName registry name (index + name.length + 1) rest
    return (name, some typeName, rest.drop 1)
  | rest => return (name, none, rest.drop 1)

/-! ### Paths -/

/-- What follows a path inside brackets: the closing bracket. Anything else follows a bracket
that closed an optional rest. -/
def closeOptional (index : Nat) : List Char → Except DefinitionError (List Char)
  | [] => .error (.unexpectedEnd index [']'])
  | ']' :: rest => .ok rest
  | _ :: _ => .error (.optionalNotSuffix index)

/-- A path up to a closing bracket or the end, in at most `steps` steps. The result holds the
path, the position after it and what follows. `total` is the length of the definition. -/
def readPath (registry : TypeRegistry) (total : Nat) :
    Nat → List String → List Char → Except DefinitionError (Path × List Char)
  | _, _, [] => .ok (.empty, [])
  | 0, _, cs => .ok (.empty, cs)
  | steps + 1, seen, c :: cs =>
    let index := total - cs.length
    if c == ']' then .ok (.empty, c :: cs)
    else if c == '}' then .error (.unexpectedChar '}' (index - 1) [])
    else if c == '{' then do
      let (name, typeName, rest) ← readAttribute registry seen index cs
      let (next, rest) ← readPath registry total steps (seen ++ [name]) rest
      return (.attr name typeName next, rest)
    else if c == '[' then do
      let (inner, rest) ← readPath registry total steps seen cs
      let rest ← closeOptional (total - rest.length) rest
      return (.optional inner, rest)
    else do
      let text := c :: cs.takeWhile fun c => !isDelimiter c
      let (next, rest) ← readPath registry total steps seen (cs.dropWhile fun c => !isDelimiter c)
      return (.literal (String.ofList text) next, rest)

/-- What follows a whole definition: nothing. -/
def closeDefinition (total : Nat) : List Char → Except DefinitionError Unit
  | [] => .ok ()
  | ']' :: rest => .error (.unexpectedChar ']' (total - rest.length - 1) [])
  | rest => .error (.optionalNotSuffix (total - rest.length))

/-- The path of a definition. Each step of the reader takes a character, so the length of the
definition bounds their number. -/
def parse (registry : TypeRegistry) (definition : String) : Except DefinitionError Path := do
  let cs := definition.toList
  let (path, rest) ← readPath registry cs.length cs.length [] cs
  closeDefinition cs.length rest
  return path

end HttpRouting.Path
