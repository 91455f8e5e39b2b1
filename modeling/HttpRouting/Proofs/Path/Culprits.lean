/-
The character that an error is about.

* `DefinitionError.Blames`, `DefinitionError.ConcernsName`: an error says that the character at a
  position is wrong, or a name as a whole;
* `Path.Completes`: texts that are definitions but for closing brackets;
* `Path.Completes.exists_parse`: one for each bracket that is still open;
* `Path.Culprit`: what is to blame in a text: a character after which nothing repairs the text, the
  end, or a name;
* `Path.culprit_of_refused`, `Path.culprit_of_parse`: there is a culprit for every error;
* `Path.parse_error_located`: what this means for the position of an error.

An error is raised deep inside a text, but says something of the whole: `Culprit.prepend` puts the
text before it back in front, one part of a path at a time.
-/
import HttpRouting.AttributeType.Builder
import HttpRouting.Proofs.Path.Refusals

namespace HttpRouting

/-! ### What errors say -/

namespace DefinitionError

/-- An error is about the character at its position, and not about what comes after it. -/
def isLocal : DefinitionError → Bool
  | unexpectedChar .. | optionalNotSuffix _ | attributeNameMissing _ | typeNameMissing _ => true
  | _ => false

/-- An error is about a character in a place where no path goes on, so that nothing was expected
instead. -/
def isMisplaced : DefinitionError → Bool
  | unexpectedChar _ _ expected => expected.isEmpty
  | optionalNotSuffix _ => true
  | _ => false

lemma isLocal_of_isMisplaced {e : DefinitionError} (h : e.isMisplaced = true) :
    e.isLocal = true := by
  cases e with
  | unexpectedChar | optionalNotSuffix => rfl
  | _ => exact nomatch h

/-- An error says that the character `c` at the position `k` is wrong. -/
structure Blames (e : DefinitionError) (c : Char) (k : Nat) : Prop where
  isLocal : e.isLocal = true
  index : e.index? = some k
  found : ∀ d i expected, e = .unexpectedChar d i expected → d = c

lemma blames_unexpectedChar (c : Char) (k : Nat) (expected : List Char) :
    (unexpectedChar c k expected).Blames c k where
  isLocal := rfl
  index := rfl
  found _ _ _ h := (unexpectedChar.inj h).1.symm

/-- An error about a missing part blames whatever is there. -/
lemma blames_of_index {e : DefinitionError} {c : Char} {k : Nat} (hlocal : e.isLocal = true)
    (hindex : e.index? = some k) (hfound : ∀ d i expected, e ≠ .unexpectedChar d i expected) :
    e.Blames c k where
  isLocal := hlocal
  index := hindex
  found d i expected h := absurd h (hfound d i expected)

/-- An error is about a whole name. If it has a position, the name begins there. -/
structure ConcernsName (e : DefinitionError) (start : Nat) : Prop where
  isLocal : e.isLocal = false
  notEnd : ∀ k expected, e ≠ .unexpectedEnd k expected
  index : ∀ k, e.index? = some k → k = start

lemma concernsName_tooLong (name : String) (k : Nat) :
    (attributeNameTooLong name k).ConcernsName k ∧ (typeNameTooLong name k).ConcernsName k :=
  ⟨⟨rfl, nofun, fun _ h => (Option.some_inj.1 h).symm⟩,
    rfl, nofun, fun _ h => (Option.some_inj.1 h).symm⟩

lemma concernsName_of_index {e : DefinitionError} (h : e.index? = none) (k : Nat) :
    e.ConcernsName k := by
  cases e with
  | ambiguousAttributes | unknownType => exact ⟨rfl, nofun, nofun⟩
  | _ => exact nomatch h

end DefinitionError

namespace Path

variable {registry : TypeRegistry}

/-! ### Texts that lack closing brackets -/

/-- A text is that of a readable path, but for some closing brackets at its end. -/
def Completes (registry : TypeRegistry) (seen : List String) (cs : List Char) : Prop :=
  ∃ p opened, IsReadable registry seen p ∧ p.render.toList = cs ++ List.replicate opened ']'

section Completes

variable {seen : List String} {cs : List Char}

lemma completes_nil : Completes registry seen [] :=
  ⟨empty, 0, isReadable_empty, rfl⟩

lemma completes_render {p : Path} (h : IsReadable registry seen p) :
    Completes registry seen p.render.toList :=
  ⟨p, 0, h, (List.append_nil _).symm⟩

lemma Completes.attr {name : String} {typeName : Option String}
    (hattribute : IsShortName name ∧ name ∉ seen ∧
      ∀ t ∈ typeName, IsShortName t ∧ (registry.find? t).isSome)
    (h : Completes registry (seen ++ [name]) cs) :
    Completes registry seen ((renderAttribute name typeName).toList ++ cs) := by
  obtain ⟨p, opened, hp, htext⟩ := h
  refine ⟨.attr name typeName p, opened, isReadable_attr_iff.2 ⟨hattribute, hp⟩, ?_⟩
  rw [render, String.toList_append, htext, List.append_assoc]

lemma Completes.literal {text : List Char} (hne : text ≠ [])
    (hplain : ∀ c ∈ text, isDelimiter c = false) (hstops : Stops cs)
    (h : Completes registry seen cs) : Completes registry seen (text ++ cs) := by
  obtain ⟨p, opened, hp, htext⟩ := h
  have hclosed : Stops (p.render.toList ++ []) := by
    rw [List.append_nil, htext]
    intro c hc
    cases cs with
    | nil =>
        have hmem : c ∈ List.replicate opened ']' := List.mem_of_mem_head? hc
        rw [List.eq_of_mem_replicate hmem]
        rfl
    | cons d cs => exact hstops c hc
  refine ⟨.literal (String.ofList text) p, opened, isReadable_literal hne hplain hp hclosed, ?_⟩
  rw [render, String.toList_append, String.toList_ofList, htext, List.append_assoc]

lemma Completes.optional (h : Completes registry seen cs) :
    Completes registry seen ('[' :: cs) := by
  obtain ⟨p, opened, hp, htext⟩ := h
  refine ⟨.optional p, opened + 1, isReadable_optional_iff.2 hp, ?_⟩
  rw [List.replicate_succ', ← List.append_assoc, List.cons_append, ← htext]
  simp [render]

end Completes

/-- The text of an attribute holds no brackets. -/
lemma count_renderAttribute {name : String} {typeName : Option String} (hname : IsShortName name)
    (htype : ∀ t ∈ typeName, IsShortName t) {c : Char} (hc : isNameCharacter c = false)
    (hmarks : c ∉ ['{', ':', '}']) : (renderAttribute name typeName).toList.count c = 0 := by
  have hshort : ∀ t, IsShortName t → c ∉ t.toList := fun t ht hmem =>
    Bool.eq_false_iff.1 hc (ht.isNameCharacter c hmem)
  simp only [List.mem_cons, List.not_mem_nil, or_false, not_or] at hmarks
  obtain ⟨hopen, hcolon, hclose⟩ := hmarks
  rw [List.count_eq_zero, toList_renderAttribute]
  cases typeName with
  | none => simp [hopen, hclose, hshort name hname]
  | some t => simp [hopen, hcolon, hclose, hshort name hname, hshort t (htype t rfl)]

/-- The brackets of a path come in pairs. -/
lemma count_render {p : Path} (hp : p.IsCanonical) :
    p.render.toList.count '[' = p.render.toList.count ']' := by
  induction p with
  | empty => rfl
  | literal text next ih =>
      obtain ⟨-, hplain, -, hnext⟩ := hp
      have hopen : text.toList.count '[' = 0 :=
        List.count_eq_zero.2 fun hmem => hplain _ hmem (by decide)
      have hclose : text.toList.count ']' = 0 :=
        List.count_eq_zero.2 fun hmem => hplain _ hmem (by decide)
      rw [render, String.toList_append, List.count_append, List.count_append, hopen, hclose,
        ih hnext]
  | attr name typeName next ih =>
      obtain ⟨hname, htype, hnext⟩ := hp
      rw [render, String.toList_append, List.count_append, List.count_append, ih hnext,
        count_renderAttribute hname htype (by decide) (by decide),
        count_renderAttribute hname htype (by decide) (by decide)]
  | optional inner ih =>
      have htext : (Path.optional inner).render.toList = '[' :: (inner.render.toList ++ [']']) := by
        simp [render]
      rw [htext]
      simp [ih hp]

/-- A text that lacks closing brackets lacks one for each bracket that is still open. -/
lemma Completes.exists_parse {cs : List Char} (h : Completes registry [] cs) :
    ∃ p, parse registry (String.ofList
      (cs ++ List.replicate (cs.count '[' - cs.count ']') ']')) = .ok p := by
  obtain ⟨p, opened, hp, htext⟩ := h
  have hcount := count_render hp.canonical
  rw [htext, List.count_append, List.count_append, List.count_replicate_self,
    List.count_replicate, if_neg (by decide), Nat.add_zero] at hcount
  have hopened : cs.count '[' - cs.count ']' = opened := by omega
  refine ⟨p, ?_⟩
  rw [hopened, ← htext, String.ofList_toList]
  exact parse_render hp

/-! ### What is to blame -/

/-- What an error says of a text that begins at a position and is refused with it. Either the text
ends too early, or one of its characters is wrong: then whatever follows that character, the text is
refused with this error, and what comes before a misplaced character can be completed. Or a name is
wrong as a whole. -/
inductive Culprit (refuses : List Char → DefinitionError → Prop) (completes : List Char → Prop)
    (pos : Nat) (cs : List Char) : DefinitionError → Prop where
  | ending (expected : List Char) :
      Culprit refuses completes pos cs (.unexpectedEnd (pos + cs.length) expected)
  | character (pre : List Char) {post : List Char} {c : Char} {e : DefinitionError}
      (hcs : cs = pre ++ c :: post)
      (hblames : e.Blames c (pos + pre.length)) (hrefuses : ∀ more, refuses (pre ++ c :: more) e)
      (hcompletes : e.isMisplaced = true → completes pre) : Culprit refuses completes pos cs e
  | name {start : Nat} {e : DefinitionError} (hstart : start ≤ pos + cs.length)
      (hname : e.ConcernsName start) : Culprit refuses completes pos cs e

section Culprit

variable {refuses refuses' : List Char → DefinitionError → Prop}
  {completes completes' : List Char → Prop} {pos : Nat} {cs : List Char} {e : DefinitionError}

/-- What is to blame in a text is to blame in the whole, if the whole is refused with the text. It
is enough to look at texts that begin with the same character. -/
lemma Culprit.prepend (before : List Char)
    (h : Culprit refuses completes (pos + before.length) cs e)
    (hrefuses : ∀ cs', cs'.head? = cs.head? → refuses cs' e → refuses' (before ++ cs') e)
    (hcompletes : ∀ pre, pre <+: cs → completes pre → completes' (before ++ pre)) :
    Culprit refuses' completes' pos (before ++ cs) e := by
  cases h with
  | ending expected =>
      rw [Nat.add_assoc, ← List.length_append]
      exact .ending expected
  | @character pre post c e hcs hblames hall hready =>
      refine .character (before ++ pre) (by rw [hcs, List.append_assoc]) ?_ (fun more => ?_)
        fun hmisplaced => hcompletes pre ⟨c :: post, hcs.symm⟩ (hready hmisplaced)
      · rwa [List.length_append, ← Nat.add_assoc]
      · rw [List.append_assoc]
        refine hrefuses _ ?_ (hall more)
        rw [hcs]
        cases pre <;> rfl
  | name hstart hname =>
      rw [Nat.add_assoc, ← List.length_append] at hstart
      exact .name hstart hname

/-- What is to blame for one reader is to blame for another one that begins with it. -/
lemma Culprit.mono (h : Culprit refuses completes pos cs e)
    (hrefuses : ∀ cs', refuses cs' e → refuses' cs' e) : Culprit refuses' completes pos cs e :=
  Culprit.prepend [] h (fun cs' _ => hrefuses cs') fun _ _ => id

end Culprit

/-! ### Names and attributes -/

section Names

variable {stops : List Char} {index : Nat} {cs : List Char} {e : DefinitionError}

/-- A name ends too early, or at a character that cannot stand there. -/
lemma culprit_of_readName (hne : stops ≠ []) (h : readName stops index cs = .error e) :
    Culprit (fun cs' e' => readName stops index cs' = .error e') (fun _ => False) index cs e := by
  have hsplit : cs.takeWhile isNameCharacter ++ cs.dropWhile isNameCharacter = cs :=
    List.takeWhile_append_dropWhile
  have hhead := List.head?_dropWhile_not isNameCharacter cs
  rw [readName] at h
  split at h
  · next hafter =>
      rw [hafter, List.append_nil] at hsplit
      rw [hsplit] at h
      cases h
      exact .ending stops
  · next c post hafter =>
      rw [hafter] at hsplit hhead
      split at h
      · cases h
      · next hc =>
          cases h
          refine .character _ hsplit.symm (DefinitionError.blames_unexpectedChar c _ stops)
            (fun more => ?_) fun hmisplaced => hne (List.isEmpty_iff.1 hmisplaced)
          have hname : ∀ d ∈ cs.takeWhile isNameCharacter, isNameCharacter d = true :=
            fun d hd => List.mem_takeWhile_imp hd
          have hstop : ¬ isNameCharacter c = true := by simpa using hhead
          rw [readName, List.takeWhile_append_of_pos hname, List.dropWhile_append_of_pos hname,
            List.takeWhile_cons_of_neg hstop, List.dropWhile_cons_of_neg hstop, List.append_nil]
          exact if_neg hc

/-- A name with the checks that it passes: it is not empty, not too long and not refused. -/
def readChecked (stops : List Char) (missing : DefinitionError)
    (tooLong refusal : String → DefinitionError) (refused : String → Bool) (index : Nat)
    (cs : List Char) : Except DefinitionError (String × List Char) := do
  let (name, rest) ← readName stops index cs
  if name.isEmpty then throw missing
  if name.length > maxNameLength then throw (tooLong (String.ofList name))
  if refused (String.ofList name) then throw (refusal (String.ofList name))
  return (String.ofList name, rest)

lemma readAttributeName_eq (seen : List String) (index : Nat) :
    readAttributeName seen index =
      readChecked [':', '}'] (.attributeNameMissing index) (.attributeNameTooLong · index)
        (fun name => .ambiguousAttributes [name]) (fun name => seen.contains name) index :=
  rfl

lemma readTypeName_eq (registry : TypeRegistry) (owner : String) (index : Nat) :
    readTypeName registry owner index =
      readChecked ['}'] (.typeNameMissing index) (.typeNameTooLong · index) (.unknownType owner)
        (fun name => (registry.find? name).isNone) index :=
  rfl

/-- A name is missing where it should begin, or there is something wrong with it as a whole. -/
lemma culprit_of_readChecked {missing : DefinitionError}
    {tooLong refusal : String → DefinitionError} {refused : String → Bool} (hne : stops ≠ [])
    (hstops : ∀ c ∈ stops, isNameCharacter c = false)
    (hmissing : ∀ c, missing.Blames c index) (hplaced : missing.isMisplaced = false)
    (hlong : ∀ name, (tooLong name).ConcernsName index)
    (hrefusal : ∀ name, (refusal name).ConcernsName index)
    (h : readChecked stops missing tooLong refusal refused index cs = .error e) :
    Culprit
      (fun cs' e' => readChecked stops missing tooLong refusal refused index cs' = .error e')
      (fun _ => False) index cs e := by
  rcases bind_eq_error_iff.1 h with h | ⟨⟨name, rest⟩, hread, h⟩
  · exact (culprit_of_readName hne h).mono fun cs' h => bind_eq_error_iff.2 (.inl h)
  · rcases check_eq_error_iff.1 h with ⟨hempty, rfl⟩ | ⟨-, h⟩
    · obtain ⟨hcs, -, c, hc, hrest⟩ := (readName_eq_ok_iff hstops).1 hread
      obtain rfl := List.isEmpty_iff.1 hempty
      obtain ⟨post, rfl⟩ := List.head?_eq_some_iff.1 hrest
      refine .character [] hcs (hmissing c) (fun more => ?_) fun h => absurd h (by simp [hplaced])
      have hmore : readName stops index (c :: more) = .ok ([], c :: more) :=
        (readName_eq_ok_iff hstops).2 ⟨rfl, List.forall_mem_nil _, c, hc, rfl⟩
      exact bind_eq_error_iff.2 (.inr ⟨_, hmore, check_eq_error_iff.2 (.inl ⟨rfl, rfl⟩)⟩)
    · rcases check_eq_error_iff.1 h with ⟨-, rfl⟩ | ⟨-, h⟩
      · exact .name (Nat.le_add_right _ _) (hlong _)
      · rcases check_eq_error_iff.1 h with ⟨-, rfl⟩ | ⟨-, h⟩
        · exact .name (Nat.le_add_right _ _) (hrefusal _)
        · exact nomatch h

/-- What is to blame in the name of an attribute. -/
lemma culprit_of_readAttributeName {seen : List String}
    (h : readAttributeName seen index cs = .error e) :
    Culprit (fun cs' e' => readAttributeName seen index cs' = .error e') (fun _ => False) index
      cs e := by
  rw [readAttributeName_eq] at h ⊢
  exact culprit_of_readChecked (by simp) (by simp [isNameCharacter])
    (fun _ => DefinitionError.blames_of_index rfl rfl nofun) rfl
    (fun name => (DefinitionError.concernsName_tooLong name index).1)
    (fun _ => DefinitionError.concernsName_of_index rfl index) h

/-- What is to blame in the name of a type. -/
lemma culprit_of_readTypeName {owner : String}
    (h : readTypeName registry owner index cs = .error e) :
    Culprit (fun cs' e' => readTypeName registry owner index cs' = .error e') (fun _ => False)
      index cs e := by
  rw [readTypeName_eq] at h ⊢
  exact culprit_of_readChecked (by simp) (by simp [isNameCharacter])
    (fun _ => DefinitionError.blames_of_index rfl rfl nofun) rfl
    (fun name => (DefinitionError.concernsName_tooLong name index).2)
    (fun _ => DefinitionError.concernsName_of_index rfl index) h

/-- What is to blame inside the braces of an attribute. -/
lemma culprit_of_readAttribute {seen : List String}
    (h : readAttribute registry seen index cs = .error e) :
    Culprit (fun cs' e' => readAttribute registry seen index cs' = .error e') (fun _ => False)
      index cs e := by
  rcases bind_eq_error_iff.1 h with hread | ⟨⟨name, rest⟩, hread, hafter⟩
  · exact (culprit_of_readAttributeName hread).mono fun cs' h => bind_eq_error_iff.2 (.inl h)
  · obtain ⟨rfl, hname, hseen, c, hc, hrest⟩ := readAttributeName_eq_ok_iff.1 hread
    obtain ⟨rest, rfl⟩ := List.head?_eq_some_iff.1 hrest
    rcases List.mem_pair.1 hc with rfl | rfl
    · -- what follows the colon does not change the name before it
      rcases bind_eq_error_iff.1 hafter with htype | ⟨_, -, hlast⟩
      · have hcolon : index + (name.toList ++ [':']).length = index + name.length + 1 := by
          rw [List.length_append, String.length_toList, ← Nat.add_assoc]
          rfl
        have hculprit := culprit_of_readTypeName htype
        rw [← hcolon] at hculprit
        rw [List.append_cons]
        refine hculprit.prepend _ (fun cs' _ htype => ?_) fun _ _ => id
        rw [hcolon] at htype
        have hmore : readAttributeName seen index (name.toList ++ [':'] ++ cs') =
            .ok (name, ':' :: cs') :=
          readAttributeName_eq_ok_iff.2 ⟨(List.append_cons _ _ _).symm, hname, hseen, ':', by simp⟩
        exact bind_eq_error_iff.2 (.inr ⟨_, hmore, bind_eq_error_iff.2 (.inl htype)⟩)
      · exact nomatch hlast
    · exact nomatch hafter

end Names

/-! ### Paths -/

lemma closeOptional_eq_error_iff {index : Nat} {rest : List Char} {e : DefinitionError} :
    closeOptional index rest = .error e ↔
      rest = [] ∧ e = .unexpectedEnd index [']'] ∨
        ∃ c post, rest = c :: post ∧ c ≠ ']' ∧ e = .optionalNotSuffix index := by
  fun_cases closeOptional index rest <;> simp_all [eq_comm]

/-- The error about a character that is left over at a position. -/
def leftoverError (c : Char) (k : Nat) : DefinitionError :=
  if c = ']' then .unexpectedChar c k [] else .optionalNotSuffix k

/-- What is left over is refused for its first character. -/
lemma closeDefinition_cons (text : List Char) (c : Char) (post : List Char) :
    closeDefinition (text ++ c :: post).length (c :: post) =
      .error (leftoverError c text.length) := by
  have hindex : (text ++ c :: post).length - (c :: post).length = text.length := by
    rw [List.length_append, Nat.add_sub_cancel]
  rw [leftoverError]
  by_cases hc : c = ']'
  · obtain rfl := hc
    rw [if_pos rfl, closeDefinition, Nat.sub_sub, ← List.length_cons, hindex]
  · rw [if_neg hc, closeDefinition.eq_3, hindex]
    · exact nofun
    · exact fun _ h => hc (List.cons.inj h).1

lemma blames_leftoverError (c : Char) (k : Nat) : (leftoverError c k).Blames c k := by
  rw [leftoverError]
  split
  · exact DefinitionError.blames_unexpectedChar c k []
  · exact DefinitionError.blames_of_index rfl rfl nofun

/-- The first character of what follows decides whether the reader stops before it. -/
lemma StopsAfter.cons {p : Path} {c : Char} {post : List Char} (h : StopsAfter p (c :: post))
    (more : List Char) : StopsAfter p (c :: more) := by
  rcases h with h | h | h
  · exact nomatch h
  · exact .inr (.inl h)
  · exact .inr (.inr h)

lemma Stops.of_prefix {pre cs : List Char} (h : Stops cs) (hpre : pre <+: cs) : Stops pre := by
  obtain ⟨post, rfl⟩ := hpre
  intro c hc
  exact h c (by rw [List.head?_append, hc, Option.some_or]; rfl)

/-- **What is to blame in a text that the reader refuses.** -/
theorem culprit_of_refused {seen : List String} {pos : Nat} {cs : List Char} {e : DefinitionError}
    (h : Refused registry seen pos cs e) :
    Culprit (Refused registry seen pos) (Completes registry seen) pos cs e := by
  induction h with
  | @brace seen pos cs =>
      exact .character [] rfl (DefinitionError.blames_unexpectedChar '}' pos [])
        (fun _ => .brace) fun _ => completes_nil
  | inAttribute h =>
      exact (culprit_of_readAttribute h).prepend ['{']
        (fun _ _ h => .inAttribute h) fun _ _ h => h.elim
  | afterAttribute hattribute h ih =>
      exact ih.prepend _ (fun _ _ h => .afterAttribute hattribute h) fun _ _ h => h.attr hattribute
  | afterLiteral hne hplain hstops h ih =>
      exact ih.prepend _
        (fun _ hhead h => .afterLiteral hne hplain (fun c hc => hstops c (hhead ▸ hc)) h)
        fun _ hpre h => h.literal hne hplain (hstops.of_prefix hpre)
  | inOptional h ih =>
      exact ih.prepend ['['] (fun _ _ h => .inOptional h)
        fun _ _ h => h.optional
  | @closing seen pos inner rest e hinner hstops h =>
      rcases closeOptional_eq_error_iff.1 h with ⟨rfl, rfl⟩ | ⟨c, post, rfl, hc, rfl⟩
      · have hend : pos + 1 + inner.render.toList.length =
            pos + ('[' :: (inner.render.toList ++ [])).length := by
          rw [List.append_nil, List.length_cons]
          omega
        rw [hend]
        exact .ending _
      · refine .character ('[' :: inner.render.toList) rfl ?_ (fun more => ?_)
          fun _ => (completes_render hinner).optional
        · have hindex : pos + ('[' :: inner.render.toList).length =
              pos + 1 + inner.render.toList.length := by
            rw [List.length_cons]
            omega
          rw [hindex]
          exact DefinitionError.blames_of_index rfl rfl nofun
        · exact .closing hinner (hstops.cons more)
            (closeOptional_eq_error_iff.2 (.inr ⟨c, more, rfl, hc, rfl⟩))

/-- **What is to blame in a text that is no definition.** -/
theorem culprit_of_parse {definition : String} {e : DefinitionError}
    (h : parse registry definition = .error e) :
    Culprit (fun cs e' => parse registry (String.ofList cs) = .error e') (Completes registry []) 0
      definition.toList e := by
  rcases parse_eq_error_iff.1 h with h | ⟨p, rest, hp, hstops, htext, h⟩
  · refine (culprit_of_refused h).mono fun cs h => parse_eq_error_iff.2 (.inl ?_)
    rwa [String.toList_ofList]
  · cases rest with
    | nil => exact nomatch h
    | cons c post =>
        rw [htext, closeDefinition_cons] at h
        obtain rfl := Except.error.inj h
        refine .character _ htext ?_ (fun more => ?_) fun _ => completes_render hp
        · rw [Nat.zero_add]
          exact blames_leftoverError c _
        · refine parse_eq_error_iff.2 (.inr ⟨p, c :: more, hp, hstops.cons more, ?_, ?_⟩)
          · rw [String.toList_ofList]
          · rw [String.toList_ofList, closeDefinition_cons]

/-! ### Positions -/

section Positions

variable {definition : String} {e : DefinitionError} {k : Nat}

/-- The position of an error is in the definition, or at its end. -/
lemma index_le_of_parse (h : parse registry definition = .error e) (hk : e.index? = some k) :
    k ≤ definition.length := by
  rw [← String.length_toList]
  cases culprit_of_parse h with
  | ending expected =>
      cases hk
      exact Nat.le_of_eq (Nat.zero_add _)
  | character pre hcs hblames _ _ =>
      obtain rfl := Option.some_inj.1 (hblames.index.symm.trans hk)
      rw [hcs, List.length_append, Nat.zero_add]
      exact Nat.le_add_right _ _
  | name hstart hname =>
      obtain rfl := hname.index k hk
      rwa [Nat.zero_add] at hstart

/-- A definition that ends too early does so at its end. -/
lemma index_eq_of_unexpectedEnd {expected : List Char}
    (h : parse registry definition = .error (.unexpectedEnd k expected)) :
    k = definition.length := by
  rw [← String.length_toList]
  generalize he : DefinitionError.unexpectedEnd k expected = e at h
  cases culprit_of_parse h with
  | ending expected' => exact (DefinitionError.unexpectedEnd.inj he).1.trans (Nat.zero_add _)
  | character pre _ hblames _ _ =>
      cases he
      exact nomatch hblames.isLocal
  | name _ hname => exact absurd he.symm (hname.notEnd k expected)

/-- An error about a character: the definition has it at the position, and is refused whatever
comes after it. -/
lemma exists_culprit (h : parse registry definition = .error e) (hlocal : e.isLocal = true)
    (hk : e.index? = some k) :
    ∃ pre c post, definition.toList = pre ++ c :: post ∧ pre.length = k ∧ e.Blames c k ∧
      (∀ more, parse registry (String.ofList (pre ++ c :: more)) = .error e) ∧
      (e.isMisplaced = true → Completes registry [] pre) := by
  cases culprit_of_parse h with
  | ending expected => exact nomatch hlocal
  | @character pre post c e hcs hblames hrefuses hcompletes =>
      have hlength : pre.length = k := by
        rw [← Option.some_inj, ← hk, hblames.index, Nat.zero_add]
      rw [Nat.zero_add, hlength] at hblames
      exact ⟨pre, c, post, hcs, hlength, hblames, hrefuses, hcompletes⟩
  | name _ hname => exact nomatch hlocal.symm.trans hname.isLocal

/-- Every definition that begins like this one, up to the culprit, is refused like this one. -/
lemma parse_eq_error_of_take (h : parse registry definition = .error e) (hlocal : e.isLocal = true)
    (hk : e.index? = some k) {definition' : String}
    (htake : definition'.toList.take (k + 1) = definition.toList.take (k + 1)) :
    parse registry definition' = .error e := by
  obtain ⟨pre, c, post, hcs, rfl, -, hrefuses, -⟩ := exists_culprit h hlocal hk
  have hsplit : definition'.toList = pre ++ c :: definition'.toList.drop (pre.length + 1) :=
    calc definition'.toList
        = definition'.toList.take (pre.length + 1) ++
            definition'.toList.drop (pre.length + 1) := (List.take_append_drop _ _).symm
      _ = pre ++ c :: definition'.toList.drop (pre.length + 1) := by
          rw [htake, hcs, List.take_length_add_append, List.append_assoc]
          rfl
  have hrefused := hrefuses (definition'.toList.drop (pre.length + 1))
  rwa [← hsplit, String.ofList_toList] at hrefused

/-- What comes before a misplaced character is a definition, once its brackets are closed. -/
lemma exists_parse_of_isMisplaced (h : parse registry definition = .error e)
    (hmisplaced : e.isMisplaced = true) (hk : e.index? = some k) :
    ∃ p, parse registry (String.ofList (definition.toList.take k ++
      List.replicate ((definition.toList.take k).count '[' -
        (definition.toList.take k).count ']') ']')) = .ok p := by
  obtain ⟨pre, c, post, hcs, rfl, -, -, hcompletes⟩ :=
    exists_culprit h (DefinitionError.isLocal_of_isMisplaced hmisplaced) hk
  rw [hcs, List.take_left]
  exact (hcompletes hmisplaced).exists_parse

/-- **An error points at the culprit.** Let a definition be refused with an error at the position
`k`.

* The position is in the definition or at its end, and there if the definition ends too early.
* A character that was not expected is the one at the position.
* An error about a character rests on the text up to this character: every definition that begins
  with it is refused with the same error.
* What comes before a misplaced character is a definition, with a closing bracket for each bracket
  that is still open. -/
theorem parse_error_located (h : parse registry definition = .error e) (hk : e.index? = some k) :
    k ≤ definition.length ∧
    (∀ expected, e = .unexpectedEnd k expected → k = definition.length) ∧
    (∀ found expected, e = .unexpectedChar found k expected →
      definition.toList[k]? = some found) ∧
    (((∃ found expected, e = .unexpectedChar found k expected) ∨ e = .optionalNotSuffix k ∨
        e = .attributeNameMissing k ∨ e = .typeNameMissing k) →
      ∀ definition' : String,
        definition'.toList.take (k + 1) = definition.toList.take (k + 1) →
          parse registry definition' = .error e) ∧
    ((e = .optionalNotSuffix k ∨ ∃ found, e = .unexpectedChar found k []) →
      ∃ p, parse registry (String.ofList (definition.toList.take k ++
        List.replicate ((definition.toList.take k).count '[' -
          (definition.toList.take k).count ']') ']')) = .ok p) := by
  refine ⟨index_le_of_parse h hk, ?ending, ?character, ?refused, ?completed⟩
  case ending =>
    rintro expected rfl
    exact index_eq_of_unexpectedEnd h
  case character =>
    rintro found expected rfl
    obtain ⟨pre, c, post, hcs, rfl, hblames, -⟩ := exists_culprit h rfl hk
    rw [hcs, List.getElem?_append_right (Nat.le_refl _), Nat.sub_self,
      hblames.found found _ expected rfl]
    rfl
  case refused =>
    intro he definition' htake
    refine parse_eq_error_of_take h ?_ hk htake
    rcases he with ⟨_, _, rfl⟩ | rfl | rfl | rfl <;> rfl
  case completed =>
    rintro (rfl | ⟨found, rfl⟩)
    · exact exists_parse_of_isMisplaced h rfl hk
    · exact exists_parse_of_isMisplaced h rfl hk

end Positions

/-- A bracket that is closed and followed by more, inside of another one: nothing after the slash
repairs the definition, and one more closing bracket in its place would. -/
theorem parse_error_located_nested :
    parse .default "/\x7ba\x7d[/b[/c]/d]" = .error (.optionalNotSuffix 11) ∧
    (∀ definition' : String, definition'.toList.take 12 = "/\x7ba\x7d[/b[/c]/".toList →
      parse .default definition' = .error (.optionalNotSuffix 11)) ∧
    ∃ p, parse .default "/\x7ba\x7d[/b[/c]]" = .ok p := by
  have h : parse .default "/\x7ba\x7d[/b[/c]/d]" = .error (.optionalNotSuffix 11) := by
    decide +kernel
  obtain ⟨-, -, -, hlocal, hready⟩ := parse_error_located h rfl
  have htext : String.ofList ("/\x7ba\x7d[/b[/c]/d]".toList.take 11 ++
      List.replicate (("/\x7ba\x7d[/b[/c]/d]".toList.take 11).count '[' -
        ("/\x7ba\x7d[/b[/c]/d]".toList.take 11).count ']') ']') = "/\x7ba\x7d[/b[/c]]" := by
    decide +kernel
  exact ⟨h, hlocal (.inr (.inl rfl)), htext ▸ hready (.inl rfl)⟩

end Path

end HttpRouting
