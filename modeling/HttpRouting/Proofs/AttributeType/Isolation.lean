/-
Types whose patterns are isolated from what stands around them.

* `AttributeType.ofDeclaration_self`, `TypeRegistry.ofDeclarations_singleton`: every type can be
  declared, and an implicit one makes a registry;
* `Regex.TakesAll`: some run of an expression takes a text as a whole;
* `AttributeType.StandsAlone.isolated`: a pattern that is one on its own is one group in every
  pattern around it, and its type accepts what it takes as a whole;
* `verboseType`, `isolated_verboseType`: such a type, with blanks and a comment in its pattern;
* `splitType`, `splitType_not_isolated`: a type that is declared without being so.

A registry reads a pattern between parentheses only. So the pattern may close the first of them
itself, and open another one for the last.
-/
import HttpRouting.Proofs.AttributeType.Building
import HttpRouting.Proofs.AttributeType.Lengths

namespace HttpRouting

/-! ### Declared types -/

/-- A type is what its declaration declares. -/
lemma AttributeType.ofDeclaration_self (t : AttributeType) :
    ofDeclaration ⟨t.name, t.pattern, t.implicit⟩ = .ok t := by
  have hunnamed := t.unnamed
  rw [ofDeclaration]
  split
  · next hg =>
      rw [hg] at hunnamed
      exact nomatch hunnamed
  · next p hg =>
      rw [hg, Option.any_some] at hunnamed
      rw [dif_pos hunnamed]
      split
      · next hw =>
          have hwhole := t.parse_eq
          rw [hw] at hwhole
          exact nomatch hwhole
      · exact congrArg Except.ok (eq_iff.2 ⟨rfl, rfl, rfl⟩)

/-- A type that is implicit makes a registry. -/
lemma TypeRegistry.ofDeclarations_singleton {t : AttributeType} (hname : isName t.name = true)
    (himplicit : [t].filter (·.implicit) = [t]) :
    ofDeclarations [⟨t.name, t.pattern, t.implicit⟩] = .ok ⟨[t], t, himplicit⟩ := by
  have htypes := ofTypes_of_filter_eq_singleton himplicit
  simp [ofDeclarations, typesOf, AttributeType.ofDeclaration_self, hname, Except.map, htypes]

/-! ### Isolated patterns -/

/-- Some run of an expression takes a text as a whole. -/
def Regex.TakesAll (r : Regex) (text : List Char) : Prop :=
  (r.run atEnd (.ofText text)).isSome = true

namespace AttributeType

/-- **A pattern that is one on its own is isolated.** In whatever group it stands, the group is read
as one, if blanks count around it and all characters are known there. The phrase of the pattern is
in it unless a switch is set around it. The type accepts the values that the pattern takes as a
whole. -/
theorem StandsAlone.isolated {t : AttributeType} (h : t.StandsAlone) :
    ∃ p, Phrase.ofText? t.pattern.toList = some p ∧
      (∀ opening kind, Opens opening kind →
        ReadAsGroup (opening ++ t.pattern.toList ++ [')']) kind p) ∧
      ∀ value, t.accepts value = true ↔ p.regex.TakesAll value := by
  obtain ⟨p, hp, hfills, hregex, -⟩ := h.exists_fills
  refine ⟨p, hp, fun opening kind hopens => hfills.readAsGroup hopens, fun value => ?_⟩
  rw [h.accepts_eq, Regex.TakesAll, hregex]

/-- A type whose pattern is two alternatives, with blanks, a group and a comment in it. -/
def verboseType : AttributeType where
  name := "code"
  pattern := "(?x) [A-Z]+ (- \\d)? | [a-z]+ # a word\n"
  implicit := true
  whole := (Pattern.parse? (wholeText "(?x) [A-Z]+ (- \\d)? | [a-z]+ # a word\n")).get
    (by decide +kernel)
  parse_eq := (Option.some_get _).symm
  unnamed := by decide +kernel

/-- This pattern is isolated. Without its last line feed it would not be: the comment would take the
closing parenthesis. -/
theorem isolated_verboseType :
    verboseType.StandsAlone ∧
      ∃ p, Phrase.ofText? verboseType.pattern.toList = some p ∧
        (∀ opening kind, Opens opening kind →
          ReadAsGroup (opening ++ verboseType.pattern.toList ++ [')']) kind p) ∧
        ∀ value, verboseType.accepts value = true ↔ p.regex.TakesAll value :=
  have h : verboseType.StandsAlone := by decide +kernel
  ⟨h, StandsAlone.isolated h⟩

/-! ### A pattern that is not one on its own -/

/-- A type whose pattern is two halves of an alternative between parentheses. -/
def splitType : AttributeType where
  name := "split"
  pattern := "a)|(b"
  implicit := true
  whole := (Pattern.parse? (wholeText "a)|(b")).get (by decide +kernel)
  parse_eq := (Option.some_get _).symm
  unnamed := by decide +kernel

/-- **A pattern may be declared that is none on its own.** The halves of this one become
alternatives, one with whatever stands before the pattern and one with whatever follows. So its type
accepts values of which it takes only a part, and so does a route that goes on after the
attribute. -/
theorem splitType_not_isolated :
    TypeRegistry.ofDeclarations [⟨"split", "a)|(b", true⟩] = .ok ⟨[splitType], splitType, rfl⟩ ∧
      Phrase.ofText? splitType.pattern.toList = none ∧
      splitType.accepts "ax".toList = true ∧ splitType.accepts "xb".toList = true ∧
      (Pattern.parse? (anchored (attributeNotation splitType 0 ++
        escapeLiteral "/edit".toList))).any (·.isMatch "a".toList) = true :=
  ⟨TypeRegistry.ofDeclarations_singleton (t := splitType) (by decide) rfl, by decide +kernel,
    by decide +kernel, by decide +kernel, by decide +kernel⟩

end AttributeType

end HttpRouting
