/-
Request methods.

* `isMethodToken`: whether a text is a non-empty token of letters, digits and a few marks;
* `Method`: a text that is one;
* `Method.ofString?`: the method that a text names, if it is one;
* `Method.standard`: the methods that every server knows;
* `Method.not_brace`: no method holds a brace.
-/

namespace HttpRouting

/-- The characters of a method token. -/
def isMethodChar (c : Char) : Bool :=
  c.val < 128 && c.isAlphanum ||
    ['!', '#', '$', '%', '&', '\'', '*', '+', '-', '.', '^', '_', '\x60', '|', '~'].contains c

/-- Whether a text is a non-empty token. -/
def isMethodToken (s : String) : Bool :=
  !s.toList.isEmpty && s.toList.all isMethodChar

/-- This name of a method is a token. -/
theorem isMethodToken_get : isMethodToken "GET" = true := by decide

/-- So is this one. -/
theorem isMethodToken_put : isMethodToken "PUT" = true := by decide

/-- A request method. Case matters: `get` and `GET` are different methods. -/
structure Method where
  name : String
  isToken : isMethodToken name = true
deriving DecidableEq

namespace Method

/-- The method that a text names. -/
def ofString? (s : String) : Option Method :=
  if h : isMethodToken s then some ⟨s, h⟩ else none

/-- The characters of a method are token characters. -/
theorem isMethodChar_of_mem {m : Method} {c : Char} (h : c ∈ m.name.toList) :
    isMethodChar c = true := by
  have ht := m.isToken
  rw [isMethodToken, Bool.and_eq_true] at ht
  exact List.all_eq_true.1 ht.2 c h

/-- No method holds a brace. -/
theorem not_brace {m : Method} {c : Char} (h : c ∈ m.name.toList) : c ≠ '{' ∧ c ≠ '}' := by
  have hc := isMethodChar_of_mem h
  constructor
  · rintro rfl
    exact absurd hc (by decide)
  · rintro rfl
    exact absurd hc (by decide)

/-- The methods that every server knows. -/
def standard : List String :=
  ["GET", "HEAD", "POST", "PUT", "PATCH", "DELETE", "OPTIONS"]

/-- The order of methods, by the code points of their names. -/
def before (m n : Method) : Bool :=
  m.name < n.name

end Method

end HttpRouting
