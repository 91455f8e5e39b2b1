/-
The texts that the reader refuses.

* `Path.Refused`: a text is refused at a position, with an error;
* `Path.readPath_eq_error_iff`: these are the errors of the reader;
* `Path.parse_eq_error_iff`: those of definitions are these, and what the reader leaves over.

Like the texts that are read, they are told by their parts: an error is in the first part of a path,
or after it. The relation knows neither the number of steps nor the length of the definition.
-/
import HttpRouting.Proofs.Path.Definition

namespace HttpRouting.Path

variable {registry : TypeRegistry}

/-! ### What the reader refuses -/

/-- The reader refuses a text that begins at a position, after the attributes in `seen`. -/
inductive Refused (registry : TypeRegistry) :
    List String → Nat → List Char → DefinitionError → Prop where
  | brace {seen : List String} {pos : Nat} {cs : List Char} :
      Refused registry seen pos ('}' :: cs) (.unexpectedChar '}' pos [])
  | inAttribute {seen : List String} {pos : Nat} {cs : List Char} {e : DefinitionError}
      (h : readAttribute registry seen (pos + 1) cs = .error e) :
      Refused registry seen pos ('{' :: cs) e
  | afterAttribute {seen : List String} {pos : Nat} {name : String} {typeName : Option String}
      {rest : List Char} {e : DefinitionError}
      (hattribute : IsShortName name ∧ name ∉ seen ∧
        ∀ t ∈ typeName, IsShortName t ∧ (registry.find? t).isSome)
      (h : Refused registry (seen ++ [name])
        (pos + (renderAttribute name typeName).toList.length) rest e) :
      Refused registry seen pos ((renderAttribute name typeName).toList ++ rest) e
  | afterLiteral {seen : List String} {pos : Nat} {text rest : List Char} {e : DefinitionError}
      (hne : text ≠ []) (hplain : ∀ c ∈ text, isDelimiter c = false) (hstops : Stops rest)
      (h : Refused registry seen (pos + text.length) rest e) :
      Refused registry seen pos (text ++ rest) e
  | inOptional {seen : List String} {pos : Nat} {cs : List Char} {e : DefinitionError}
      (h : Refused registry seen (pos + 1) cs e) : Refused registry seen pos ('[' :: cs) e
  | closing {seen : List String} {pos : Nat} {inner : Path} {rest : List Char}
      {e : DefinitionError} (hinner : IsReadable registry seen inner)
      (hstops : StopsAfter inner rest)
      (h : closeOptional (pos + 1 + inner.render.toList.length) rest = .error e) :
      Refused registry seen pos ('[' :: (inner.render.toList ++ rest)) e

section Reader

variable {total steps : Nat} {seen : List String} {pos : Nat} {cs : List Char}
  {e : DefinitionError}

/-- What the reader does not read is refused. -/
lemma refused_of_readPath (htotal : total = pos + cs.length) (hsteps : cs.length ≤ steps)
    (h : readPath registry total steps seen cs = .error e) : Refused registry seen pos cs e := by
  induction steps generalizing seen pos cs with
  | zero =>
      obtain rfl := List.length_eq_zero_iff.1 (Nat.le_zero.1 hsteps)
      exact nomatch h
  | succ steps ih =>
      cases cs with
      | nil => exact nomatch h
      | cons c cs =>
          rw [List.length_cons] at htotal hsteps
          have hindex : total - cs.length = pos + 1 := by omega
          cases hc : isDelimiter c with
          | true =>
              rcases delimiter_cases hc with rfl | rfl | rfl | rfl
              · rw [readPath_attr, hindex] at h
                rcases bind_eq_error_iff.1 h with h | ⟨⟨name, typeName, rest⟩, hread, h⟩
                · exact .inAttribute h
                · obtain ⟨htext, hattribute⟩ := readAttribute_eq_ok_iff.1 hread
                  have hlength := congrArg List.length htext
                  rw [List.length_cons, List.length_append] at hlength
                  rw [htext]
                  exact .afterAttribute hattribute (ih (by omega)
                    (length_le_of_renderAttribute htext hsteps) (map_eq_error_iff.1 h))
              · have he : (.error (.unexpectedChar '}' (total - cs.length - 1) []) :
                    Except DefinitionError (Path × List Char)) = .error e := h
                rw [hindex, Nat.add_sub_cancel] at he
                cases he
                exact .brace
              · rw [readPath_optional] at h
                rcases bind_eq_error_iff.1 h with h | ⟨⟨inner, rest⟩, hread, hmap⟩
                · exact .inOptional (ih (by omega) (by omega) h)
                · obtain ⟨rfl, hinner, hstops⟩ := eq_of_readPath (by omega) hread
                  rw [List.length_append] at htotal
                  have hclose : total - rest.length = pos + 1 + inner.render.toList.length := by
                    omega
                  exact .closing hinner hstops (hclose ▸ map_eq_error_iff.1 hmap)
              · rw [readPath_stop (.inr rfl)] at h
                exact nomatch h
          | false =>
              obtain ⟨text, rest, htext, hne, hplain, hrest⟩ := exists_literal hc cs
              have hlength := congrArg List.length htext
              have hpos : 0 < text.length := List.length_pos_iff.2 hne
              rw [List.length_cons, List.length_append] at hlength
              rw [htext] at h ⊢
              rw [readPath_literal hne hplain hrest] at h
              exact .afterLiteral hne hplain hrest
                (ih (by omega) (by omega) (map_eq_error_iff.1 h))

/-- What is refused is not read. -/
lemma Refused.readPath_eq (h : Refused registry seen pos cs e) (htotal : total = pos + cs.length)
    (hsteps : cs.length ≤ steps) : readPath registry total steps seen cs = .error e := by
  induction h generalizing steps with
  | @brace seen pos cs =>
      obtain ⟨steps, rfl, -⟩ := exists_step hsteps
      rw [List.length_cons] at htotal
      have hindex : total - cs.length - 1 = pos := by omega
      exact congrArg (fun k => Except.error (DefinitionError.unexpectedChar '}' k [])) hindex
  | @inAttribute seen pos cs e h =>
      obtain ⟨steps, rfl, -⟩ := exists_step hsteps
      rw [List.length_cons] at htotal
      have hindex : total - cs.length = pos + 1 := by omega
      rw [readPath_attr, hindex, h]
      rfl
  | @afterAttribute seen pos name typeName rest e hattribute h ih =>
      obtain ⟨cs, hcs⟩ : ∃ cs, (renderAttribute name typeName).toList = '{' :: cs :=
        ⟨_, toList_renderAttribute name typeName⟩
      rw [hcs, List.cons_append] at hsteps
      rw [List.length_append] at htotal
      rw [hcs, List.cons_append]
      obtain ⟨steps, rfl, hle⟩ := exists_step hsteps
      rw [List.length_append] at hle
      rw [readPath_attr, readAttribute_eq_ok_iff.2 ⟨by rw [hcs, List.cons_append], hattribute⟩]
      exact map_eq_error_iff.2 (ih (by omega) (by omega))
  | @afterLiteral seen pos text rest e hne hplain hstops h ih =>
      have hpos : 0 < text.length := List.length_pos_iff.2 hne
      rw [List.length_append] at htotal hsteps
      obtain ⟨steps, rfl⟩ : ∃ n, steps = n + 1 := ⟨steps - 1, by omega⟩
      rw [readPath_literal hne hplain hstops]
      exact map_eq_error_iff.2 (ih (by omega) (by omega))
  | inOptional h ih =>
      obtain ⟨steps, rfl, hle⟩ := exists_step hsteps
      rw [List.length_cons] at htotal
      rw [readPath_optional, ih (by omega) hle]
      rfl
  | @closing seen pos inner rest e hinner hstops h =>
      obtain ⟨steps, rfl, hle⟩ := exists_step hsteps
      rw [List.length_cons, List.length_append] at htotal
      rw [List.length_append] at hle
      have hclose : total - rest.length = pos + 1 + inner.render.toList.length := by omega
      rw [readPath_optional, Path.readPath_eq hinner total (by omega) hstops]
      exact map_eq_error_iff.2 (by rw [hclose, h])

/-- **The errors of the reader.** -/
theorem readPath_eq_error_iff (htotal : total = pos + cs.length) (hsteps : cs.length ≤ steps) :
    readPath registry total steps seen cs = .error e ↔ Refused registry seen pos cs e :=
  ⟨refused_of_readPath htotal hsteps, fun h => h.readPath_eq htotal hsteps⟩

/-- **The errors of definitions**: those of the reader, and what it leaves over. -/
theorem parse_eq_error_iff {definition : String} :
    parse registry definition = .error e ↔
      Refused registry [] 0 definition.toList e ∨
        ∃ p rest, IsReadable registry [] p ∧ StopsAfter p rest ∧
          definition.toList = p.render.toList ++ rest ∧
          closeDefinition definition.toList.length rest = .error e := by
  rw [parse, bind_eq_error_iff,
    readPath_eq_error_iff (Nat.zero_add _).symm (Nat.le_refl definition.toList.length)]
  refine or_congr_right ⟨?_, ?_⟩
  · rintro ⟨⟨p, rest⟩, hread, h⟩
    obtain ⟨htext, hreadable, hstops⟩ := eq_of_readPath (Nat.le_refl _) hread
    rcases bind_eq_error_iff.1 h with h | ⟨_, -, h⟩
    · exact ⟨p, rest, hreadable, hstops, htext, h⟩
    · exact nomatch h
  · rintro ⟨p, rest, hreadable, hstops, htext, h⟩
    refine ⟨(p, rest), ?_, bind_eq_error_iff.2 (.inl h)⟩
    rw [htext]
    exact Path.readPath_eq hreadable _ (by simp) hstops

end Reader

end HttpRouting.Path
