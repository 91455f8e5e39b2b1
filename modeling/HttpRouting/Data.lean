/-
Data as a notation for files gives it.

* `Data`: texts, lists and records, with a place for everything else;
* `DataNotation`: the notations, which differ in what may stand for a record or a unit;
* `Data.isReadable`: whether no number in the data is out of range;
* `Data.find?`: the field of a record;
* `Data.fields?`: the named fields of a record, which may be written as a list;
* `Data.text?`, `Data.texts?`, `Data.tag?`: a text, a record of texts, and one of several names.
-/

namespace HttpRouting

/-- Data. Numbers and truth values are told apart from texts only. -/
inductive Data where
  | null
  | scalar
  /-- A number that is too great to be held. It may stand only where nobody reads it. -/
  | outOfRange
  | text (s : String)
  | list (items : List Data)
  | record (fields : List (String × Data))
deriving Inhabited

/-- A notation for data. -/
inductive DataNotation where
  | json
  | toml
deriving DecidableEq, Repr

namespace Data

mutual

/-- Whether no number in the data is out of range. -/
def isReadable : Data → Bool
  | outOfRange => false
  | list items => areReadable items
  | record fields => haveReadable fields
  | _ => true

/-- Whether no number in a list of data is out of range. -/
def areReadable : List Data → Bool
  | [] => true
  | d :: ds => d.isReadable && areReadable ds

/-- Whether no number in the values of fields is out of range. -/
def haveReadable : List (String × Data) → Bool
  | [] => true
  | (_, d) :: fields => d.isReadable && haveReadable fields

end

/-- The value of a field. -/
def find? (fields : List (String × Data)) (name : String) : Option Data :=
  (fields.find? (·.1 == name)).map (·.2)

/-- The values of a record by the names of its fields. Fields of other names do not count, but
they are read. A list stands for a record whose first fields it gives in order. It gives no more
than there are, or in TOML the further ones are not even read. -/
def fields? (n : DataNotation) (names : List String) : Data → Option (String → Option Data)
  | record fields =>
    if haveReadable (fields.filter fun f => !names.contains f.1) then some (find? fields) else none
  | list items =>
    if n = .json ∧ names.length < items.length then none else some (find? (names.zip items))
  | _ => none

/-- A text. -/
def text? : Data → Option String
  | text s => some s
  | _ => none

/-- A text, or none where there is null. -/
def nullableText? : Data → Option (Option String)
  | null => some none
  | d => d.text?.map some

/-- The names and texts of a record of texts. -/
def texts? : Data → Option (List (String × String))
  | record fields => fields.mapM fun (name, d) => d.text?.map (name, ·)
  | _ => none

/-- Whether a value carries nothing. In JSON that is null, in TOML an empty list or table. -/
def isUnit : DataNotation → Data → Bool
  | .json, null => true
  | .toml, list items => items.isEmpty
  | .toml, record fields => fields.isEmpty
  | _, _ => false

/-- One of several names: a text, or a record of one field that carries nothing. -/
def tag? (n : DataNotation) : Data → Option String
  | text s => some s
  | record [(name, d)] => if d.isUnit n then some name else none
  | _ => none

/-- What a decoder makes of a field, or a default where the field is missing. -/
def orDefault {α : Type} (default : α) (decode : Data → Option α) : Option Data → Option α
  | some d => decode d
  | none => some default

end Data

end HttpRouting
