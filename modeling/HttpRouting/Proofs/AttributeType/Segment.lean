/-
Types whose values lie inside one segment of a path.

* `AttributeType.StaysInSegment`: the values of a type are not empty and hold no slash;
* `AttributeType.IsSelfContained.staysInSegment`: so it is if the pattern meets a set of characters
  in every run, and no set with a slash;
* `TypeRegistry.staysInSegments_default`: so it is for the built-in types.
-/
import HttpRouting.AttributeType.Builder
import HttpRouting.Proofs.AttributeType.Lengths
import HttpRouting.Proofs.Path.Splits
import HttpRouting.Proofs.Regex.Characters

namespace HttpRouting

/-- The values of a type are not empty and hold no slash. -/
def AttributeType.StaysInSegment (t : AttributeType) : Prop :=
  ∀ value, t.accepts value = true → value ≠ [] ∧ '/' ∉ value

/-- A pattern takes what its sets of characters hold. -/
lemma AttributeType.IsSelfContained.staysInSegment {t : AttributeType} (h : t.IsSelfContained)
    (htakes : t.regex.takesSome = true) (havoids : t.regex.avoids '/' = true) :
    t.StaysInSegment := by
  intro value hvalue
  have hlength : value.length ∈ t.regex.lengths value := h.accepts_iff.1 hvalue
  have hslash := Regex.not_mem_take havoids hlength
  rw [List.take_length] at hslash
  exact ⟨List.ne_nil_of_length_pos (Regex.pos_of_mem_lengths htakes hlength), hslash⟩

namespace TypeRegistry

/-- The values of all types of a registry are not empty and hold no slash. -/
def StaysInSegments (r : TypeRegistry) : Prop :=
  ∀ t ∈ r.types, t.StaysInSegment

lemma StaysInSegments.typeOf {r : TypeRegistry} (h : r.StaysInSegments) (name : Option String) :
    (r.typeOf name).StaysInSegment :=
  h _ (r.typeOf_mem name)

/-- **The values of the built-in types lie inside one segment of a path.** -/
theorem staysInSegments_default : TypeRegistry.default.StaysInSegments := by
  have hpatterns : ∀ t ∈ TypeRegistry.default.types,
      t.IsSelfContained ∧ t.regex.takesSome = true ∧ t.regex.avoids '/' = true := by
    decide +kernel
  intro t ht
  obtain ⟨hself, htakes, havoids⟩ := hpatterns t ht
  exact hself.staysInSegment htakes havoids

end TypeRegistry

end HttpRouting
