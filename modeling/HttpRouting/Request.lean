/-
Requests and the attributes bound on them.

* `Request`: a method, a path and attributes in the order of their binding;
* `Request.ofUri`: the request for a URI, without its query and fragment;
* `Request.bind`: a request with one more attribute, or another value for one it has;
* `Request.bindAll`: several bindings in a row;
* `names_bind`: a binding keeps the names and their order, and adds at most its own.
-/

namespace HttpRouting

/-- A request. The method need not be a token. -/
structure Request where
  method : String
  path : String
  attributes : List (String × String) := []
deriving DecidableEq, Repr

namespace Request

/-- A URI up to its query or fragment. -/
def pathOf (uri : String) : String :=
  String.ofList (uri.toList.takeWhile fun c => c != '?' && c != '#')

/-- The request for a URI. -/
def ofUri (method uri : String) : Request :=
  { method, path := pathOf uri }

/-- The value of an attribute. -/
def get? (r : Request) (name : String) : Option String :=
  (r.attributes.find? (·.1 == name)).map (·.2)

/-- The list with a value for a name: in its place if the list has it, else at the end. -/
def setValue (name value : String) : List (String × String) → List (String × String)
  | [] => [(name, value)]
  | (n, v) :: rest => if n = name then (name, value) :: rest else (n, v) :: setValue name value rest

/-- The request with a value for an attribute. -/
def bind (r : Request) (name value : String) : Request :=
  { r with attributes := setValue name value r.attributes }

/-- The request with values for several attributes, bound one after the other. -/
def bindAll (r : Request) (bound : List (String × String)) : Request :=
  bound.foldl (fun r (name, value) => r.bind name value) r

/-! ### Lemmas -/

/-- Setting a value keeps the names and their order, and adds at most the new name. -/
theorem names_setValue (name value : String) (as : List (String × String)) :
    (setValue name value as).map (·.1) =
      if name ∈ as.map (·.1) then as.map (·.1) else as.map (·.1) ++ [name] := by
  induction as with
  | nil => simp [setValue]
  | cons a as ih =>
    obtain ⟨n, v⟩ := a
    rw [setValue]
    by_cases h : n = name
    · simp [h]
    · have hne : name ≠ n := fun e => h e.symm
      simp only [h, if_false, List.map_cons, ih, List.mem_cons, hne, false_or]
      split <;> rfl

/-- A binding keeps the names and their order, and adds at most its own. -/
theorem names_bind (r : Request) (name value : String) :
    (r.bind name value).attributes.map (·.1) =
      if name ∈ r.attributes.map (·.1) then r.attributes.map (·.1)
      else r.attributes.map (·.1) ++ [name] :=
  names_setValue name value r.attributes

/-- A binding changes neither the method nor the path. -/
@[simp] theorem path_bind (r : Request) (name value : String) :
    (r.bind name value).path = r.path := rfl

/-- Nor the method. -/
@[simp] theorem method_bind (r : Request) (name value : String) :
    (r.bind name value).method = r.method := rfl

end Request

end HttpRouting
