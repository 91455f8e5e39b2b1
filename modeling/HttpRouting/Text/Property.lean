/-
Properties of characters, by the names that a text gives them.

* `normalName`: a name without what does not matter in it;
* `property?`: the characters that a name stands for;
* `propertyValue?`: the characters for which a property has a value.

A name may be that of a property, of a category or of a script.
-/
import HttpRouting.Text.Property.Break
import HttpRouting.Text.Property.Category
import HttpRouting.Text.Property.Flag
import HttpRouting.Text.Property.Script

namespace HttpRouting.Text

/-- The characters of a name that matter, in small letters. -/
def nameLetters (name : List Char) : List Char :=
  (name.filter fun c => c.val < 128 && c != ' ' && c != '_' && c != '-').map Char.toLower

/-- A name without what does not matter in it: capital letters, blanks and dashes, and a prefix. One
abbreviation begins like the prefix. -/
def normalName : List Char → String
  | i :: s :: rest =>
    if i.toLower = 'i' ∧ s.toLower = 's' then
      if nameLetters rest = ['c'] then "isc" else String.ofList (nameLetters rest)
    else String.ofList (nameLetters (i :: s :: rest))
  | name => String.ofList (nameLetters name)

/-- The characters that a name stands for. -/
def property? (name : List Char) : Option Edges :=
  let name := normalName name
  (flag? name).or ((category? name).or (script? name))

/-- The characters for which a property has a value. -/
def propertyValue? (name value : List Char) : Option Edges :=
  let value := normalName value
  match normalName name with
  | "gc" | "generalcategory" => category? value
  | "sc" | "script" => script? value
  | "scx" | "scriptextensions" => scriptExtension? value
  | "age" => age? value
  | "gcb" | "graphemeclusterbreak" => lookupTable? graphemeBreakTables value
  | "wb" | "wordbreak" => lookupTable? wordBreakTables value
  | "sb" | "sentencebreak" => lookupTable? sentenceBreakTables value
  | _ => none

end HttpRouting.Text
