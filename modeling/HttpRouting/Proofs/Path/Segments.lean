/-
Paths whose attributes reach up to a slash or to the end.

* `Path.closesSegment`: a path is empty or begins with a slash, maybe in an optional rest;
* `Path.isSlashDelimited`: such a path follows each attribute;
* `Path.Derives.values_unique`: a path of this kind stands for a text with one list of values, if
  the values of types lie inside one segment.

An attribute then takes its segment, and nothing else could be its value.
-/
import HttpRouting.Proofs.AttributeType.Segment
import HttpRouting.Proofs.Lists

namespace HttpRouting.Path

/-! ### Delimiters -/

/-- Whether a path begins with a literal that begins with a slash. -/
def beginsWithSlash : Path → Bool
  | literal text _ => text.toList.head? == some '/'
  | _ => false

/-- Whether a path is empty or begins with a slash, maybe in an optional rest. -/
def closesSegment : Path → Bool
  | empty => true
  | optional inner => inner.beginsWithSlash
  | p => p.beginsWithSlash

/-- Whether the end, a slash or an optional rest that begins with a slash follows each attribute. -/
def isSlashDelimited : Path → Bool
  | empty => true
  | literal _ next => next.isSlashDelimited
  | attr _ _ next => next.closesSegment && next.isSlashDelimited
  | optional inner => inner.isSlashDelimited

variable {registry : TypeRegistry} {p : Path} {cs : List Char} {c c' : List (String × String)}

lemma Derives.head?_of_beginsWithSlash (h : p.Derives registry cs c)
    (hp : p.beginsWithSlash = true) : cs.head? = some '/' := by
  cases h with
  | @literal text next cs _ rest =>
      have htext : text.toList.head? = some '/' := beq_iff_eq.1 hp
      rw [List.head?_append, htext, Option.some_or]
  | empty | attr | taken | skipped => exact nomatch hp

/-- What closes a segment stands for nothing or for a text that begins with a slash. -/
lemma Derives.head?_of_closesSegment (h : p.Derives registry cs c)
    (hp : p.closesSegment = true) : ∀ d, cs.head? = some d → d = '/' := by
  have hslash : cs.head? = some '/' → ∀ d, cs.head? = some d → d = '/' := by
    intro hcs d hd
    exact Option.some.inj (hd.symm.trans hcs)
  cases h with
  | empty | skipped => exact fun d hd => nomatch hd
  | literal rest => exact hslash ((Derives.literal rest).head?_of_beginsWithSlash hp)
  | attr accepts rest => exact nomatch hp
  | taken rest => exact hslash (rest.head?_of_beginsWithSlash hp)

/-! ### Values -/

/-- Nothing has no values. -/
lemma Derives.eq_nil (h : registry.StaysInSegments) (hd : p.Derives registry [] c) : c = [] := by
  generalize htext : ([] : List Char) = cs at hd
  induction hd with
  | empty | skipped => rfl
  | literal rest ih => exact ih (List.append_eq_nil_iff.1 htext.symm).2.symm
  | @attr _ typeName _ value _ _ accepts rest ih =>
      have hvalue : value = [] := (List.append_eq_nil_iff.1 htext.symm).1
      exact absurd hvalue (h.typeOf typeName value accepts).1
  | taken rest ih => exact ih htext

/-- A segment ends at the first slash. -/
lemma eq_of_segment_append {v v' rest rest' : List Char} (hv : '/' ∉ v) (hv' : '/' ∉ v')
    (hrest : ∀ d, rest.head? = some d → d = '/') (hrest' : ∀ d, rest'.head? = some d → d = '/')
    (h : v ++ rest = v' ++ rest') : v = v' ∧ rest = rest' := by
  have hspan : ∀ {v rest : List Char}, '/' ∉ v → (∀ d, rest.head? = some d → d = '/') →
      (v ++ rest).takeWhile (· != '/') = v ∧ (v ++ rest).dropWhile (· != '/') = rest := by
    intro v rest hv hrest
    refine span_append (fun d hd => bne_iff_ne.2 fun he => hv (he ▸ hd)) fun d hd => ?_
    rw [hrest d hd, bne_self_eq_false]
  obtain ⟨htake, hdrop⟩ := hspan hv hrest
  obtain ⟨htake', hdrop'⟩ := hspan hv' hrest'
  rw [h, htake'] at htake
  rw [h, hdrop'] at hdrop
  exact ⟨htake.symm, hdrop.symm⟩

/-- **A slash-delimited path stands for a text with one list of values.** -/
theorem Derives.values_unique (h : registry.StaysInSegments) (hp : p.isSlashDelimited = true)
    (hd : p.Derives registry cs c) (hd' : p.Derives registry cs c') : c = c' := by
  induction p generalizing cs c c' with
  | empty => rw [(derives_empty_iff.1 hd).2, (derives_empty_iff.1 hd').2]
  | literal text next ih =>
      obtain ⟨rest, rfl, hrest⟩ := derives_literal_iff.1 hd
      obtain ⟨rest', he, hrest'⟩ := derives_literal_iff.1 hd'
      obtain rfl := List.append_cancel_left he
      exact ih hp hrest hrest'
  | attr name typeName next ih =>
      obtain ⟨hcloses, hnext⟩ := Bool.and_eq_true_iff.1 hp
      obtain ⟨value, rest, others, rfl, rfl, haccepts, hrest⟩ := derives_attr_iff.1 hd
      obtain ⟨value', rest', others', he, rfl, haccepts', hrest'⟩ := derives_attr_iff.1 hd'
      have htype := h.typeOf typeName
      obtain ⟨rfl, rfl⟩ := eq_of_segment_append (htype value haccepts).2 (htype value' haccepts').2
        (hrest.head?_of_closesSegment hcloses) (hrest'.head?_of_closesSegment hcloses) he
      rw [ih hnext hrest hrest']
  | optional inner ih =>
      -- without a text, it makes no difference whether the rest takes part
      rcases derives_optional_iff.1 hd with hd | ⟨rfl, rfl⟩
      · rcases derives_optional_iff.1 hd' with hd' | ⟨rfl, rfl⟩
        · exact ih hp hd hd'
        · exact hd.eq_nil h
      · rcases derives_optional_iff.1 hd' with hd' | ⟨-, rfl⟩
        · exact (hd'.eq_nil h).symm
        · rfl

end HttpRouting.Path
