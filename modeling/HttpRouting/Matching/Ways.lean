/-
All ways through a program, in the order of preference.

* `Program.ways`: the ways through a program, each with the rest of the text and the captures;
* `mem_ways_capture`: a capture takes any slice that its type accepts;
* `nil_mem_ways_ofPath_iff`: the ways that take a whole text are the ways in which the path of the
  program stands for it.

These lists are definitions of meaning. The machine of `Program.run` looks for the first way that
is accepted, without listing them.
-/
import HttpRouting.Matching.Program
import HttpRouting.Path.Derivation

namespace HttpRouting.Program

/-- The numbers up to a bound, from the largest to the smallest. -/
def ends (n : Nat) : List Nat :=
  (List.range (n + 1)).reverse

/-- The ways through a program from the start of a text: what is left of the text, and the
captures. Captures take the longest slice first, and an optional rest is entered before it is
skipped. -/
def ways : Program → List Char → List (List Char × Captures)
  | done, cs => [(cs, [])]
  | literal text next, cs =>
    match stripPrefix? text cs with
    | some cs => next.ways cs
    | none => []
  | capture name type next, cs =>
    (ends cs.length).flatMap fun n =>
      if type.accepts (cs.take n) then
        (next.ways (cs.drop n)).map fun (rest, captures) =>
          (rest, (name, String.ofList (cs.take n)) :: captures)
      else []
  | optional inner, cs => inner.ways cs ++ [(cs, [])]

/-! ### Lemmas -/

variable {cs rest : List Char} {captures : Captures}

/-- The ends of slices go up to the length. -/
@[simp] theorem mem_ends {n k : Nat} : k ∈ ends n ↔ k ≤ n := by
  simp only [ends, List.mem_reverse, List.mem_range]
  omega

/-- The ways through a literal are those through what follows it. -/
theorem mem_ways_literal {text : List Char} {next : Program} :
    (rest, captures) ∈ (literal text next).ways cs ↔
      ∃ after, cs = text ++ after ∧ (rest, captures) ∈ next.ways after := by
  rw [ways]
  constructor
  · intro h
    split at h
    · next after hs => exact ⟨after, stripPrefix?_eq_some_iff.1 hs, h⟩
    · exact nomatch h
  · rintro ⟨after, hcs, h⟩
    rw [stripPrefix?_eq_some_iff.2 hcs]
    exact h

/-- A capture takes any slice that its type accepts. -/
theorem mem_ways_capture {name : String} {type : AttributeType} {next : Program} :
    (rest, captures) ∈ (capture name type next).ways cs ↔
      ∃ value after others, cs = value ++ after ∧ type.accepts value = true ∧
        captures = (name, String.ofList value) :: others ∧ (rest, others) ∈ next.ways after := by
  rw [ways, List.mem_flatMap]
  constructor
  · rintro ⟨n, -, h⟩
    split at h
    · next ha =>
      obtain ⟨⟨r, others⟩, hw, he⟩ := List.mem_map.1 h
      cases he
      exact ⟨cs.take n, cs.drop n, others, (List.take_append_drop n cs).symm, ha, rfl, hw⟩
    · exact nomatch h
  · rintro ⟨value, after, others, rfl, ha, rfl, hw⟩
    refine ⟨value.length, mem_ends.2 (by simp), ?_⟩
    rw [List.take_left', if_pos ha, List.drop_left']
    · exact List.mem_map.2 ⟨(rest, others), hw, rfl⟩
    · rfl
    · rfl

/-- An optional rest is entered or skipped. -/
theorem mem_ways_optional {inner : Program} :
    (rest, captures) ∈ (optional inner).ways cs ↔
      (rest, captures) ∈ inner.ways cs ∨ rest = cs ∧ captures = [] := by
  simp [ways]

/-- The ways that take a whole text are the ways in which the path stands for it. -/
theorem nil_mem_ways_ofPath_iff {registry : TypeRegistry} {p : Path} :
    ([], captures) ∈ (ofPath registry p).ways cs ↔ p.Derives registry cs captures := by
  induction p generalizing cs captures with
  | empty =>
    rw [ofPath, ways, List.mem_singleton, Path.derives_empty_iff, Prod.mk.injEq, eq_comm (a := [])]
  | literal text next ih =>
    rw [ofPath, mem_ways_literal, Path.derives_literal_iff]
    simp only [ih]
  | attr name typeName next ih =>
    rw [ofPath, mem_ways_capture, Path.derives_attr_iff]
    simp only [ih]
    constructor
    · rintro ⟨value, after, others, hcs, ha, hv, h⟩
      exact ⟨value, after, others, hcs, hv, ha, h⟩
    · rintro ⟨value, after, others, hcs, hv, ha, h⟩
      exact ⟨value, after, others, hcs, ha, hv, h⟩
  | optional inner ih =>
    rw [ofPath, mem_ways_optional, Path.derives_optional_iff, ih, eq_comm (a := []) (b := cs)]

end HttpRouting.Program
