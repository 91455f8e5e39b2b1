/-
Reading a definition and printing a path undo each other.

* `IsShortName`: the names that a definition may hold;
* `Path.IsCanonical`: the paths that a definition can stand for;
* `readName_eq_ok_iff`, `readAttribute_eq_ok_iff`: when the readers of names and of attributes
  succeed;
* `Path.IsReadable`: the paths that the reader gives after some names;
* `Path.StopsAfter`: where the reader stops behind the text of a path;
* `readPath_eq`: the text of such a path is read as that path;
* `Path.eq_of_readPath`: the reader gives no other paths, takes up their texts and stops there;
* `Path.parse_eq_ok_iff`: a definition stands for a path exactly if the path is canonical, passes
  the check and has the definition as its text.

The reader knows a nested bracket by what follows it. It stops behind an optional rest whatever
comes next, and elsewhere only at the end or at a closing bracket.
-/
import HttpRouting.Path.Parser
import HttpRouting.Proofs.Lists
import HttpRouting.Proofs.Path.Validity
import HttpRouting.Proofs.Results
import Mathlib.Data.List.TakeWhile

namespace HttpRouting

/-! ### Names -/

/-- A name in a definition: 1 to 32 ASCII letters, digits and underscores. -/
def IsShortName (s : String) : Prop :=
  1 ≤ s.length ∧ s.length ≤ 32 ∧ ∀ c ∈ s.toList, c.isAlphanum = true ∨ c = '_'

/-- Letters and digits are ASCII. -/
lemma isNameCharacter_iff {c : Char} : isNameCharacter c = true ↔ c.isAlphanum = true ∨ c = '_' := by
  have hascii : c.isAlphanum = true → c.val < 128 := by
    intro h
    have h : (decide (c.val ≥ 65 ∧ c.val ≤ 90) || c.val ≥ 97 && c.val ≤ 122 ||
        c.val ≥ 48 && c.val ≤ 57) = true := h
    simp only [Bool.or_eq_true, Bool.and_eq_true, decide_eq_true_eq] at h
    rcases h with (⟨-, h⟩ | ⟨-, h⟩) | ⟨-, h⟩ <;> exact UInt32.lt_of_le_of_lt h (by decide)
  rw [isNameCharacter, Bool.or_eq_true, Bool.and_eq_true, decide_eq_true_eq, beq_iff_eq]
  exact or_congr_left (and_iff_right_of_imp hascii)

/-- Characters of names make a name if they are not too few and not too many. -/
lemma isShortName_ofList_iff {cs : List Char} (h : ∀ c ∈ cs, isNameCharacter c = true) :
    IsShortName (String.ofList cs) ↔ cs.isEmpty = false ∧ ¬ cs.length > maxNameLength := by
  have hchars : ∀ c ∈ cs, c.isAlphanum = true ∨ c = '_' := fun c hc => isNameCharacter_iff.1 (h c hc)
  rw [IsShortName, String.length_ofList, String.toList_ofList, List.isEmpty_eq_false_iff,
    maxNameLength, Nat.not_lt, Nat.one_le_iff_ne_zero, ne_eq, List.length_eq_zero_iff]
  exact ⟨fun h => ⟨h.1, h.2.1⟩, fun h => ⟨h.1, h.2, hchars⟩⟩

lemma IsShortName.isNameCharacter {s : String} (h : IsShortName s) :
    ∀ c ∈ s.toList, isNameCharacter c = true :=
  fun c hc => isNameCharacter_iff.2 (h.2.2 c hc)

namespace Path

/-! ### Canonical paths -/

/-- Whether a path begins with a literal. -/
def beginsWithLiteral : Path → Bool
  | literal .. => true
  | _ => false

/-- The paths that a definition can stand for. Literals are not empty, hold no bracket or brace, and
do not follow each other. -/
def IsCanonical : Path → Prop
  | empty => True
  | literal text next =>
    text ≠ "" ∧ (∀ c ∈ text.toList, c ∉ ['{', '}', '[', ']']) ∧ next.beginsWithLiteral = false ∧
      next.IsCanonical
  | attr name typeName next =>
    IsShortName name ∧ (∀ t ∈ typeName, IsShortName t) ∧ next.IsCanonical
  | optional inner => inner.IsCanonical

/-! ### Readers of names -/

/-- A reader of names takes all the characters of names, up to one that may stop it. -/
lemma readName_eq_ok_iff {stops : List Char} (hstops : ∀ c ∈ stops, isNameCharacter c = false)
    {index : Nat} {cs name rest : List Char} :
    readName stops index cs = .ok (name, rest) ↔
      cs = name ++ rest ∧ (∀ c ∈ name, isNameCharacter c = true) ∧
        ∃ c ∈ stops, rest.head? = some c := by
  have hsplit : cs.takeWhile isNameCharacter ++ cs.dropWhile isNameCharacter = cs :=
    List.takeWhile_append_dropWhile
  rw [readName]
  constructor
  · intro h
    split at h
    · exact nomatch h
    · next c after hafter =>
        split at h
        · next hc =>
            cases h
            refine ⟨by rw [← hafter, hsplit], fun d hd => List.mem_takeWhile_imp hd, c, ?_, rfl⟩
            exact List.contains_iff_mem.1 hc
        · exact nomatch h
  · rintro ⟨rfl, hname, c, hc, hrest⟩
    obtain ⟨after, rfl⟩ := List.head?_eq_some_iff.1 hrest
    have hstop : ¬ isNameCharacter c = true := by simp [hstops c hc]
    rw [List.takeWhile_append_of_pos hname, List.dropWhile_append_of_pos hname,
      List.takeWhile_cons_of_neg hstop, List.dropWhile_cons_of_neg hstop, List.append_nil]
    exact if_pos (List.contains_iff_mem.2 hc)

/-- When it takes a name that is neither empty nor too long. -/
lemma exists_readName_iff {stops : List Char} (hstops : ∀ c ∈ stops, isNameCharacter c = false)
    {index : Nat} {cs rest : List Char} {name : String} :
    (∃ chars, readName stops index cs = .ok (chars, rest) ∧ chars.isEmpty = false ∧
        ¬ chars.length > maxNameLength ∧ String.ofList chars = name) ↔
      cs = name.toList ++ rest ∧ IsShortName name ∧ ∃ c ∈ stops, rest.head? = some c := by
  constructor
  · rintro ⟨chars, hread, hempty, hlong, rfl⟩
    obtain ⟨rfl, hchars, hstop⟩ := (readName_eq_ok_iff hstops).1 hread
    rw [String.toList_ofList]
    exact ⟨rfl, (isShortName_ofList_iff hchars).2 ⟨hempty, hlong⟩, hstop⟩
  · rintro ⟨rfl, hname, hstop⟩
    have hchars := hname.isNameCharacter
    obtain ⟨hempty, hlong⟩ := (isShortName_ofList_iff hchars).1 (by rwa [String.ofList_toList])
    exact ⟨name.toList, (readName_eq_ok_iff hstops).2 ⟨rfl, hchars, hstop⟩, hempty, hlong,
      String.ofList_toList⟩

/-- When the name of an attribute is read. -/
lemma readAttributeName_eq_ok_iff {seen : List String} {index : Nat} {cs rest : List Char}
    {name : String} :
    readAttributeName seen index cs = .ok (name, rest) ↔
      cs = name.toList ++ rest ∧ IsShortName name ∧ name ∉ seen ∧
        ∃ c ∈ [':', '}'], rest.head? = some c := by
  rw [readAttributeName, bind_eq_ok_iff]
  constructor
  · rintro ⟨⟨chars, after⟩, hread, h⟩
    dsimp only at h
    simp only [check_eq_ok_iff, Bool.not_eq_true] at h
    obtain ⟨hempty, hlong, hseen, h⟩ := h
    cases h
    obtain ⟨hcs, hname, hstop⟩ :=
      (exists_readName_iff (by simp [isNameCharacter])).1 ⟨chars, hread, hempty, hlong, rfl⟩
    exact ⟨hcs, hname, by simpa using hseen, hstop⟩
  · rintro ⟨hcs, hname, hseen, hstop⟩
    obtain ⟨chars, hread, hempty, hlong, rfl⟩ :=
      (exists_readName_iff (by simp [isNameCharacter])).2 ⟨hcs, hname, hstop⟩
    refine ⟨(chars, rest), hread, ?_⟩
    simp only [check_eq_ok_iff, Bool.not_eq_true]
    exact ⟨hempty, hlong, by simpa using hseen, rfl⟩

variable {registry : TypeRegistry}

/-- When the name of a type is read. -/
lemma readTypeName_eq_ok_iff {owner : String} {index : Nat} {cs rest : List Char} {name : String} :
    readTypeName registry owner index cs = .ok (name, rest) ↔
      cs = name.toList ++ rest ∧ IsShortName name ∧ (registry.find? name).isSome ∧
        rest.head? = some '}' := by
  rw [readTypeName, bind_eq_ok_iff]
  constructor
  · rintro ⟨⟨chars, after⟩, hread, h⟩
    dsimp only at h
    simp only [check_eq_ok_iff, Bool.not_eq_true] at h
    obtain ⟨hempty, hlong, hknown, h⟩ := h
    cases h
    obtain ⟨hcs, hname, c, hc, hstop⟩ :=
      (exists_readName_iff (by simp [isNameCharacter])).1 ⟨chars, hread, hempty, hlong, rfl⟩
    obtain rfl := List.mem_singleton.1 hc
    exact ⟨hcs, hname, by simpa [Option.isSome_iff_ne_none] using hknown, hstop⟩
  · rintro ⟨hcs, hname, hknown, hstop⟩
    obtain ⟨chars, hread, hempty, hlong, rfl⟩ := (exists_readName_iff (by simp [isNameCharacter])).2
      ⟨hcs, hname, '}', List.mem_singleton_self _, hstop⟩
    refine ⟨(chars, rest), hread, ?_⟩
    simp only [check_eq_ok_iff, Bool.not_eq_true]
    exact ⟨hempty, hlong, by simpa [Option.isSome_iff_ne_none] using hknown, rfl⟩

/-- The text of an attribute, character by character. -/
lemma toList_renderAttribute (name : String) (typeName : Option String) :
    (renderAttribute name typeName).toList =
      '{' :: (name.toList ++ (typeName.elim [] fun t => ':' :: t.toList) ++ ['}']) := by
  cases typeName <;> simp [renderAttribute]

/-- **When an attribute is read**: its text comes next, with names of the right kind, which is new,
and a type that is known. -/
lemma readAttribute_eq_ok_iff {seen : List String} {index : Nat} {cs rest : List Char}
    {name : String} {typeName : Option String} :
    readAttribute registry seen index cs = .ok (name, typeName, rest) ↔
      '{' :: cs = (renderAttribute name typeName).toList ++ rest ∧ IsShortName name ∧
        name ∉ seen ∧ ∀ t ∈ typeName, IsShortName t ∧ (registry.find? t).isSome := by
  rw [readAttribute, bind_eq_ok_iff, toList_renderAttribute]
  constructor
  · rintro ⟨⟨name', after⟩, hread, h⟩
    obtain ⟨rfl, hname, hseen, c, hc, hafter⟩ := readAttributeName_eq_ok_iff.1 hread
    obtain ⟨after, rfl⟩ := List.head?_eq_some_iff.1 hafter
    rcases List.mem_pair.1 hc with rfl | rfl
    · obtain ⟨⟨typeName', last⟩, htype, he⟩ := bind_eq_ok_iff.1 h
      obtain ⟨rfl, hshort, hknown, hlast⟩ := readTypeName_eq_ok_iff.1 htype
      obtain ⟨last, rfl⟩ := List.head?_eq_some_iff.1 hlast
      cases he
      exact ⟨by simp, hname, hseen, fun t ht => Option.some_inj.1 ht ▸ ⟨hshort, hknown⟩⟩
    · cases h
      exact ⟨by simp, hname, hseen, fun t ht => nomatch ht⟩
  · rintro ⟨hcs, hname, hseen, htype⟩
    obtain rfl := List.tail_eq_of_cons_eq hcs
    cases typeName with
    | none =>
        refine ⟨(name, '}' :: rest), readAttributeName_eq_ok_iff.2
          ⟨by simp, hname, hseen, '}', by simp⟩, rfl⟩
    | some t =>
        obtain ⟨hshort, hknown⟩ := htype t rfl
        refine ⟨(name, ':' :: t.toList ++ '}' :: rest), readAttributeName_eq_ok_iff.2
          ⟨by simp, hname, hseen, ':', by simp⟩, ?_⟩
        exact bind_eq_ok_iff.2 ⟨(t, '}' :: rest),
          readTypeName_eq_ok_iff.2 ⟨rfl, hshort, hknown, rfl⟩, rfl⟩

/-- What follows the text of an attribute is shorter than the inside of its brace. -/
lemma length_le_of_renderAttribute {name : String} {typeName : Option String}
    {cs rest : List Char} {n : Nat}
    (h : '{' :: cs = (renderAttribute name typeName).toList ++ rest) (hn : cs.length + 1 ≤ n + 1) :
    rest.length ≤ n := by
  rw [toList_renderAttribute, List.cons_append, List.cons_inj_right] at h
  rw [h, List.length_append] at hn
  omega

/-! ### Readable paths -/

/-- The paths that the reader gives after the attributes in `seen`. -/
structure IsReadable (registry : TypeRegistry) (seen : List String) (p : Path) : Prop where
  canonical : p.IsCanonical
  nodup : p.attributeNames.Nodup
  fresh : ∀ name ∈ p.attributeNames, name ∉ seen
  known : p.HasKnownTypes registry

section Readable

variable {seen : List String}

lemma isReadable_empty : IsReadable registry seen empty where
  canonical := trivial
  nodup := List.nodup_nil
  fresh _ h := nomatch h
  known := trivial

lemma isReadable_literal_iff {text : String} {next : Path} :
    IsReadable registry seen (literal text next) ↔
      (text ≠ "" ∧ (∀ c ∈ text.toList, c ∉ ['{', '}', '[', ']']) ∧
        next.beginsWithLiteral = false) ∧ IsReadable registry seen next := by
  constructor
  · rintro ⟨⟨hne, hplain, hnext, hcanonical⟩, hnodup, hfresh, hknown⟩
    exact ⟨⟨hne, hplain, hnext⟩, hcanonical, hnodup, hfresh, hknown⟩
  · rintro ⟨⟨hne, hplain, hnext⟩, hcanonical, hnodup, hfresh, hknown⟩
    exact ⟨⟨hne, hplain, hnext, hcanonical⟩, hnodup, hfresh, hknown⟩

lemma isReadable_attr_iff {name : String} {typeName : Option String} {next : Path} :
    IsReadable registry seen (attr name typeName next) ↔
      (IsShortName name ∧ name ∉ seen ∧
        ∀ t ∈ typeName, IsShortName t ∧ (registry.find? t).isSome) ∧
        IsReadable registry (seen ++ [name]) next := by
  constructor
  · rintro ⟨⟨hname, htype, hcanonical⟩, hnodup, hfresh, htypes, hknown⟩
    obtain ⟨hmem, hnodup⟩ := List.nodup_cons.1 hnodup
    obtain ⟨hseen, hfresh⟩ := List.forall_mem_cons.1 hfresh
    refine ⟨⟨hname, hseen, fun t ht => ⟨htype t ht, htypes t ht⟩⟩, hcanonical, hnodup, ?_, hknown⟩
    intro n hn hn'
    rcases List.mem_append.1 hn' with hn' | hn'
    · exact hfresh n hn hn'
    · exact hmem (List.mem_singleton.1 hn' ▸ hn)
  · rintro ⟨⟨hname, hseen, htype⟩, hcanonical, hnodup, hfresh, hknown⟩
    refine ⟨⟨hname, fun t ht => (htype t ht).1, hcanonical⟩, List.nodup_cons.2 ⟨?_, hnodup⟩,
      List.forall_mem_cons.2 ⟨hseen, ?_⟩, fun t ht => (htype t ht).2, hknown⟩
    · exact fun hmem => hfresh name hmem (List.mem_append_right seen (List.mem_singleton_self name))
    · exact fun n hn hn' => hfresh n hn (List.mem_append_left [name] hn')

lemma isReadable_optional_iff {inner : Path} :
    IsReadable registry seen (optional inner) ↔ IsReadable registry seen inner :=
  ⟨fun h => ⟨h.canonical, h.nodup, h.fresh, h.known⟩,
    fun h => ⟨h.canonical, h.nodup, h.fresh, h.known⟩⟩

/-- After nothing, these are the canonical paths that pass the check. -/
lemma isReadable_nil_iff {p : Path} :
    IsReadable registry [] p ↔ p.IsCanonical ∧ p.validate registry = .ok () := by
  rw [validate_eq_ok_iff]
  exact ⟨fun h => ⟨h.canonical, h.nodup, h.known⟩, fun h => ⟨h.1, h.2.1, by simp, h.2.2⟩⟩

end Readable

/-! ### Readers of paths -/

lemma isDelimiter_iff {c : Char} : isDelimiter c = true ↔ c ∈ ['{', '}', '[', ']'] := by
  simp [isDelimiter, or_assoc]

/-- What follows a literal begins with a delimiter. -/
def Stops (cs : List Char) : Prop :=
  ∀ c ∈ cs.head?, isDelimiter c = true

/-- Whether a path ends with an optional rest. -/
def endsInOptional : Path → Bool
  | empty => false
  | literal _ next | attr _ _ next => next.endsInOptional
  | optional _ => true

/-- The reader stops behind the text of a path: at the end, at a closing bracket, or because it has
just closed an optional rest. -/
def StopsAfter (p : Path) (rest : List Char) : Prop :=
  rest = [] ∨ rest.head? = some ']' ∨ p.endsInOptional = true

lemma stopsAfter_empty_iff {rest : List Char} :
    StopsAfter empty rest ↔ rest = [] ∨ rest.head? = some ']' := by
  simp [StopsAfter, endsInOptional]

/-- The text of a path begins with a delimiter, unless the path begins with a literal. -/
lemma stops_render {p : Path} (hp : p.beginsWithLiteral = false) {rest : List Char}
    (hrest : StopsAfter p rest) : Stops (p.render.toList ++ rest) := by
  cases p with
  | empty =>
      intro c hc
      rcases stopsAfter_empty_iff.1 hrest with rfl | h
      · exact nomatch hc
      · obtain rfl : ']' = c := Option.some_inj.1 (h.symm.trans hc)
        rfl
  | literal text next => exact nomatch hp
  | attr name typeName next => simp [Stops, render, toList_renderAttribute, isDelimiter]
  | optional inner => simp [Stops, render, isDelimiter]

/-- A path that begins with a literal has a text that does not begin with a delimiter. -/
lemma beginsWithLiteral_of_stops {p : Path} (hp : p.IsCanonical) {rest : List Char}
    (h : Stops (p.render.toList ++ rest)) : p.beginsWithLiteral = false := by
  cases p with
  | literal text next =>
      obtain ⟨hne, hplain, -⟩ := hp
      obtain ⟨c, cs, hcs⟩ := List.exists_cons_of_ne_nil (fun he => hne (String.toList_eq_nil_iff.1 he))
      have hc : isDelimiter c = true := h c (by simp [render, hcs])
      exact absurd (isDelimiter_iff.1 hc) (hplain c (by simp [hcs]))
  | empty | attr name typeName next | optional inner => rfl

section Steps

variable {total steps : Nat} {seen : List String} {cs : List Char}

/-- The reader stops at the end and at a closing bracket. -/
lemma readPath_stop (h : cs = [] ∨ cs.head? = some ']') :
    readPath registry total steps seen cs = .ok (empty, cs) := by
  rcases h with rfl | h
  · exact readPath.eq_1 ..
  · obtain ⟨cs, rfl⟩ := List.head?_eq_some_iff.1 h
    cases steps with
    | zero => exact readPath.eq_2 _ _ _ _ (by simp)
    | succ steps => simp [readPath]

/-- An opening brace begins an attribute. -/
lemma readPath_attr :
    readPath registry total (steps + 1) seen ('{' :: cs) =
      readAttribute registry seen (total - cs.length) cs >>= fun a =>
        (readPath registry total steps (seen ++ [a.1]) a.2.2).map fun w =>
          (attr a.1 a.2.1 w.1, w.2) :=
  rfl

/-- An opening bracket begins an optional rest. -/
lemma readPath_optional :
    readPath registry total (steps + 1) seen ('[' :: cs) =
      readPath registry total steps seen cs >>= fun w =>
        (closeOptional (total - w.2.length) w.2).map fun rest => (optional w.1, rest) :=
  rfl

/-- A closing brace has no place outside an attribute. -/
lemma readPath_brace {p : Path} {rest : List Char} :
    readPath registry total (steps + 1) seen ('}' :: cs) ≠ .ok (p, rest) :=
  nofun

/-- An optional rest ends at its closing bracket. -/
lemma closeOptional_eq_ok_iff {index : Nat} {rest : List Char} :
    closeOptional index cs = .ok rest ↔ cs = ']' :: rest := by
  fun_cases closeOptional index cs <;> simp_all

end Steps

/-- A text that does not begin with a delimiter begins with a literal, which reaches up to one. -/
lemma exists_literal {c : Char} (hc : isDelimiter c = false) (cs : List Char) :
    ∃ text rest, c :: cs = text ++ rest ∧ text ≠ [] ∧ (∀ d ∈ text, isDelimiter d = false) ∧
      Stops rest := by
  refine ⟨c :: cs.takeWhile fun d => !isDelimiter d, cs.dropWhile fun d => !isDelimiter d, ?_,
    List.cons_ne_nil _ _, List.forall_mem_cons.2 ⟨hc, fun d hd => ?_⟩, fun d hd => ?_⟩
  · rw [List.cons_append, List.takeWhile_append_dropWhile]
  · simpa using List.mem_takeWhile_imp hd
  · have hhead := List.head?_dropWhile_not (fun d => !isDelimiter d) cs
    rw [hd] at hhead
    simpa using hhead

/-- A literal is read as a whole. -/
lemma readPath_literal {total steps : Nat} {seen : List String} {text rest : List Char}
    (hne : text ≠ []) (hplain : ∀ c ∈ text, isDelimiter c = false) (hrest : Stops rest) :
    readPath registry total (steps + 1) seen (text ++ rest) =
      (readPath registry total steps seen rest).map fun w =>
        (literal (String.ofList text) w.1, w.2) := by
  obtain ⟨c, cs, rfl⟩ := List.exists_cons_of_ne_nil hne
  obtain ⟨hc, hcs⟩ := List.forall_mem_cons.1 hplain
  obtain ⟨htake, hdrop⟩ :
      ((cs ++ rest).takeWhile fun d => !isDelimiter d) = cs ∧
        ((cs ++ rest).dropWhile fun d => !isDelimiter d) = rest :=
    span_append (fun d hd => by rw [hcs d hd]; rfl) fun d hd => by rw [hrest d hd]; rfl
  simp only [isDelimiter, Bool.or_eq_false_iff] at hc
  rw [List.cons_append, readPath, hc.1.1.1, hc.1.1.2, hc.1.2, hc.2, htake, hdrop]
  rfl

/-- A literal in front of a path makes a readable path, if no literal follows. -/
lemma isReadable_literal {seen : List String} {text rest : List Char} {next : Path}
    (hne : text ≠ []) (hplain : ∀ c ∈ text, isDelimiter c = false)
    (hnext : IsReadable registry seen next) (hstops : Stops (next.render.toList ++ rest)) :
    IsReadable registry seen (literal (String.ofList text) next) := by
  refine isReadable_literal_iff.2 ⟨⟨by simpa using hne, fun d hd hmem => ?_,
    beginsWithLiteral_of_stops hnext.canonical hstops⟩, hnext⟩
  rw [String.toList_ofList] at hd
  exact Bool.eq_false_iff.1 (hplain d hd) (isDelimiter_iff.2 hmem)

/-- A text with a first character leaves a step for the rest. -/
lemma exists_step {c : Char} {cs : List Char} {steps : Nat} (h : (c :: cs).length ≤ steps) :
    ∃ n, steps = n + 1 ∧ cs.length ≤ n := by
  rw [List.length_cons] at h
  exact ⟨steps - 1, by omega, by omega⟩

/-- **The text of a readable path is read as that path**, up to where the reader stops. -/
theorem readPath_eq {seen : List String} {p : Path} (h : IsReadable registry seen p) (total : Nat)
    {steps : Nat} (hsteps : p.render.toList.length ≤ steps) {rest : List Char}
    (hrest : StopsAfter p rest) :
    readPath registry total steps seen (p.render.toList ++ rest) = .ok (p, rest) := by
  induction p generalizing steps seen rest with
  | empty => exact readPath_stop (stopsAfter_empty_iff.1 hrest)
  | literal text next ih =>
      obtain ⟨⟨hne, hplain, hnext⟩, hreadable⟩ := isReadable_literal_iff.1 h
      have hne : text.toList ≠ [] := fun he => hne (String.toList_eq_nil_iff.1 he)
      have hplain : ∀ c ∈ text.toList, isDelimiter c = false := fun c hc =>
        Bool.eq_false_iff.2 fun he => hplain c hc (isDelimiter_iff.1 he)
      rw [render, String.toList_append, List.length_append] at hsteps
      have hpos : 0 < text.toList.length := List.length_pos_iff.2 hne
      obtain ⟨steps, rfl⟩ : ∃ n, steps = n + 1 := ⟨steps - 1, by omega⟩
      rw [render, String.toList_append, List.append_assoc,
        readPath_literal hne hplain (stops_render hnext hrest), ih hreadable (by omega) hrest,
        String.ofList_toList]
      rfl
  | attr name typeName next ih =>
      obtain ⟨hattribute, hreadable⟩ := isReadable_attr_iff.1 h
      obtain ⟨cs, hcs⟩ : ∃ cs, (renderAttribute name typeName).toList = '{' :: cs :=
        ⟨_, toList_renderAttribute name typeName⟩
      have htext : (attr name typeName next).render.toList = '{' :: (cs ++ next.render.toList) := by
        rw [render, String.toList_append, hcs, List.cons_append]
      rw [htext] at hsteps ⊢
      obtain ⟨steps, rfl, hle⟩ := exists_step hsteps
      have hnextSteps : next.render.toList.length ≤ steps := Nat.le_trans (by simp) hle
      rw [List.cons_append, List.append_assoc, readPath_attr,
        readAttribute_eq_ok_iff.2 ⟨by rw [hcs, List.cons_append], hattribute⟩]
      change (readPath registry total steps (seen ++ [name]) (next.render.toList ++ rest)).map _ = _
      rw [ih hreadable hnextSteps hrest]
      rfl
  | optional inner ih =>
      have htext : (optional inner).render.toList = '[' :: (inner.render.toList ++ [']']) := by
        simp [render]
      rw [htext] at hsteps ⊢
      obtain ⟨steps, rfl, hle⟩ := exists_step hsteps
      have hinnerSteps : inner.render.toList.length ≤ steps := Nat.le_trans (by simp) hle
      have hinner := ih (isReadable_optional_iff.1 h) hinnerSteps
        (.inr (.inl rfl) : StopsAfter inner ([']'] ++ rest))
      rw [List.cons_append, List.append_assoc, readPath_optional, hinner]
      rfl

/-- Where the reader stops at once, it has read nothing. -/
lemma eq_of_stop {seen : List String} {cs rest : List Char} {p : Path}
    (hcs : cs = [] ∨ cs.head? = some ']')
    (h : (.ok (empty, cs) : Except DefinitionError (Path × List Char)) = .ok (p, rest)) :
    cs = p.render.toList ++ rest ∧ IsReadable registry seen p ∧ StopsAfter p rest := by
  cases h
  exact ⟨rfl, isReadable_empty, stopsAfter_empty_iff.2 hcs⟩

lemma delimiter_cases {c : Char} (h : isDelimiter c = true) :
    c = '{' ∨ c = '}' ∨ c = '[' ∨ c = ']' := by
  simpa using isDelimiter_iff.1 h

/-- **The reader gives readable paths only**, takes up their texts and stops where it has to. -/
theorem eq_of_readPath {total steps : Nat} {seen : List String} {cs rest : List Char} {p : Path}
    (hsteps : cs.length ≤ steps) (h : readPath registry total steps seen cs = .ok (p, rest)) :
    cs = p.render.toList ++ rest ∧ IsReadable registry seen p ∧ StopsAfter p rest := by
  induction steps generalizing seen cs rest p with
  | zero =>
      obtain rfl := List.length_eq_zero_iff.1 (Nat.le_zero.1 hsteps)
      exact eq_of_stop (.inl rfl) h
  | succ steps ih =>
      cases cs with
      | nil => exact eq_of_stop (.inl rfl) h
      | cons c cs =>
          cases hc : isDelimiter c with
          | true =>
              rw [List.length_cons] at hsteps
              rcases delimiter_cases hc with rfl | rfl | rfl | rfl
              · rw [readPath_attr] at h
                obtain ⟨⟨name, typeName, after⟩, hread, h⟩ := bind_eq_ok_iff.1 h
                obtain ⟨⟨next, last⟩, hnext, he⟩ := map_eq_ok_iff.1 h
                cases he
                obtain ⟨htext, hattribute⟩ := readAttribute_eq_ok_iff.1 hread
                obtain ⟨rfl, hreadable, hstops⟩ :=
                  ih (length_le_of_renderAttribute htext hsteps) hnext
                refine ⟨?_, isReadable_attr_iff.2 ⟨hattribute, hreadable⟩, hstops⟩
                rw [htext, render, String.toList_append, List.append_assoc]
              · exact absurd h readPath_brace
              · rw [readPath_optional] at h
                obtain ⟨⟨inner, after⟩, hinner, h⟩ := bind_eq_ok_iff.1 h
                obtain ⟨last, hclose, he⟩ := map_eq_ok_iff.1 h
                cases he
                obtain rfl := closeOptional_eq_ok_iff.1 hclose
                obtain ⟨rfl, hreadable, -⟩ := ih (Nat.le_of_succ_le_succ hsteps) hinner
                exact ⟨by simp [render], isReadable_optional_iff.2 hreadable, .inr (.inr rfl)⟩
              · rw [readPath_stop (.inr rfl)] at h
                exact eq_of_stop (.inr rfl) h
          | false =>
              obtain ⟨text, after, htext, hne, hplain, hafter⟩ := exists_literal hc cs
              rw [htext] at hsteps h ⊢
              rw [readPath_literal hne hplain hafter] at h
              obtain ⟨⟨next, last⟩, hnext, he⟩ := map_eq_ok_iff.1 h
              cases he
              have hpos : 0 < text.length := List.length_pos_iff.2 hne
              rw [List.length_append] at hsteps
              obtain ⟨rfl, hreadable, hstops⟩ := ih (by omega) hnext
              refine ⟨?_, isReadable_literal hne hplain hreadable hafter, hstops⟩
              rw [render, String.toList_append, String.toList_ofList, List.append_assoc]

/-! ### Definitions -/

lemma closeDefinition_eq_ok_iff {total : Nat} {rest : List Char} :
    closeDefinition total rest = .ok () ↔ rest = [] := by
  fun_cases closeDefinition total rest <;> simp_all

/-- What a definition stands for is readable and has the definition as its text. -/
lemma isReadable_of_parse {definition : String} {p : Path}
    (h : parse registry definition = .ok p) :
    IsReadable registry [] p ∧ p.render = definition := by
  obtain ⟨⟨path, rest⟩, hread, h⟩ := bind_eq_ok_iff.1 h
  obtain ⟨_, hclose, he⟩ := bind_eq_ok_iff.1 h
  cases he
  obtain rfl := closeDefinition_eq_ok_iff.1 hclose
  obtain ⟨htext, hreadable, -⟩ := eq_of_readPath (Nat.le_refl _) hread
  rw [List.append_nil] at htext
  exact ⟨hreadable, String.toList_inj.1 htext.symm⟩

/-- The text of a readable path is a definition that stands for it. -/
lemma parse_render {p : Path} (h : IsReadable registry [] p) :
    parse registry p.render = .ok p := by
  have hread := readPath_eq h p.render.toList.length (Nat.le_refl _) (.inl rfl)
  rw [List.append_nil] at hread
  exact bind_eq_ok_iff.2 ⟨(p, []), hread, rfl⟩

/-- What a definition stands for passes the check. -/
lemma validate_of_parse {definition : String} {p : Path}
    (h : parse registry definition = .ok p) : p.validate registry = .ok () :=
  (isReadable_nil_iff.1 (isReadable_of_parse h).1).2

/-- **A definition stands for a path** exactly if the path is canonical, passes the check and has
the definition as its text. -/
theorem parse_eq_ok_iff {definition : String} {p : Path} :
    parse registry definition = .ok p ↔
      p.IsCanonical ∧ p.validate registry = .ok () ∧ p.render = definition := by
  rw [← and_assoc, ← isReadable_nil_iff]
  constructor
  · exact isReadable_of_parse
  · rintro ⟨hreadable, rfl⟩
    exact parse_render hreadable

end Path

end HttpRouting
