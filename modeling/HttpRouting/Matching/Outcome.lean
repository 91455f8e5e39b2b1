/-
What matching a request gives.

* `Captures`: the values of attributes, in the order of their definition;
* `Outcome`: a route with its captures, or the methods that would have been allowed;
* `AllowedMethods`: methods, each with the first route that has it;
* `AllowedMethods.record`: takes note of a route whose path matches;
* `AllowedMethods.recordAll`: takes note of several routes in turn;
* `AllowedMethods.outcome`: the failure that lists the methods in the order of their routes.
-/
import HttpRouting.Method

namespace HttpRouting

/-- The values of attributes, in the order of their definition. -/
abbrev Captures := List (String × String)

/-- What matching a request gives. A failure lists every method whose route matches the path,
with the first such route. -/
inductive Outcome where
  | matched (index : Nat) (captures : Captures)
  | failed (allowed : List (Method × Nat))
deriving DecidableEq

/-- Methods, each with the first route that has it. -/
structure AllowedMethods where
  entries : List (Method × Nat) := []
deriving DecidableEq

namespace AllowedMethods

/-- The entries with a route of a method. A method that is there keeps the smaller index. -/
def insert (method : Method) (index : Nat) : List (Method × Nat) → List (Method × Nat)
  | [] => [(method, index)]
  | (m, i) :: rest =>
    if m = method then (m, min i index) :: rest else (m, i) :: insert method index rest

/-- Takes note of a route of a method. -/
def record (a : AllowedMethods) (method : Method) (index : Nat) : AllowedMethods :=
  ⟨insert method index a.entries⟩

/-- Takes note of several routes in turn. -/
def recordAll (a : AllowedMethods) (records : List (Method × Nat)) : AllowedMethods :=
  records.foldl (fun a e => a.record e.1 e.2) a

/-- The methods in the order of their routes. -/
def toList (a : AllowedMethods) : List (Method × Nat) :=
  a.entries.mergeSort fun x y => x.2 ≤ y.2

/-- The failure that lists the methods. -/
def outcome (a : AllowedMethods) : Outcome :=
  .failed a.toList

/-- Taking note of a method adds no other method. -/
theorem methods_insert (method : Method) (index : Nat) (es : List (Method × Nat)) :
    (insert method index es).map (·.1) =
      if method ∈ es.map (·.1) then es.map (·.1) else es.map (·.1) ++ [method] := by
  induction es with
  | nil => simp [insert]
  | cons e es ih =>
    obtain ⟨m, i⟩ := e
    rw [insert]
    by_cases h : m = method
    · simp [h]
    · have hne : method ≠ m := fun e => h e.symm
      simp only [h, if_false, List.map_cons, ih, List.mem_cons, hne, false_or]
      split <;> rfl

end AllowedMethods

end HttpRouting
