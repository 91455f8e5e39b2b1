/-
The texts that a regular expression denotes.

* `Regex.language`: the language of an expression, by union, concatenation and repetition;
* `Regex.mem_kstar_iff`, `Regex.mem_mul_kstar_iff`: repetitions by a first round that takes
  something;
* `Regex.mem_lengths_iff`: the runs of an expression take the beginnings of a text that are in its
  language;
* `Regex.length_mem_lengths_iff`: they take a text as a whole exactly if it is in the language;
* `Regex.mem_language_plus_set`, `Regex.mem_language_times_set`: the languages of sets of characters
  that are repeated.

Which runs are preferred, and that a round without characters ends a repetition, leaves the language
as it is.
-/
import HttpRouting.Proofs.Regex.Characters
import Mathlib.Computability.Language

namespace HttpRouting.Regex

open scoped Computability

/-- The texts that an expression denotes. An anchor is about what stands around a text, and denotes
none. -/
def language : Regex → Language Char
  | empty => 1
  | set s => {cs | ∃ c, s.contains c = true ∧ cs = [c]}
  | anchor _ => 0
  | seq r s => r.language * s.language
  | alt r s => r.language + s.language
  | plus r _ => r.language * r.language∗
  | group _ r => r.language

/-- Expressions in a row denote texts in a row. -/
lemma mem_language_seq {r s : Regex} {cs : List Char} :
    cs ∈ (seq r s).language ↔ ∃ a ∈ r.language, ∃ b ∈ s.language, a ++ b = cs :=
  Language.mem_mul

/-! ### Repetitions of a language -/

section Repetition

variable {L : Language Char} {cs : List Char}

/-- A repetition is empty, or it begins with a round that is not. -/
lemma mem_kstar_iff : cs ∈ L∗ ↔ cs = [] ∨ ∃ a ∈ L, a ≠ [] ∧ ∃ b ∈ L∗, a ++ b = cs := by
  constructor
  · intro h
    obtain ⟨rounds, rfl, hrounds⟩ := Language.mem_kstar_iff_exists_nonempty.1 h
    cases rounds with
    | nil => exact .inl rfl
    | cons a rounds =>
        obtain ⟨⟨ha, hne⟩, hrest⟩ := List.forall_mem_cons.1 hrounds
        have hb : rounds.flatten ∈ L∗ := Language.join_mem_kstar fun b hb => (hrest b hb).1
        exact .inr ⟨a, ha, hne, _, hb, rfl⟩
  · rintro (rfl | ⟨a, ha, -, b, hb, rfl⟩)
    · exact Language.nil_mem_kstar L
    · exact mul_kstar_le_kstar (a := L) (Language.append_mem_mul ha hb)

/-- At least one round: the first one is empty, and the only one, or it is not. -/
lemma mem_mul_kstar_iff :
    cs ∈ L * L∗ ↔ (cs = [] ∧ [] ∈ L) ∨ ∃ a ∈ L, a ≠ [] ∧ ∃ b ∈ L∗, a ++ b = cs := by
  constructor
  · intro h
    obtain ⟨a, ha, b, hb, rfl⟩ := Language.mem_mul.1 h
    rcases eq_or_ne a [] with rfl | hne
    · -- an empty round before others can be left out
      exact (mem_kstar_iff.1 hb).imp_left fun he => ⟨he, ha⟩
    · exact .inr ⟨a, ha, hne, b, hb, rfl⟩
  · rintro (⟨rfl, ha⟩ | ⟨a, ha, -, b, hb, rfl⟩)
    · exact Language.append_mem_mul ha (Language.nil_mem_kstar L)
    · exact Language.append_mem_mul ha hb

end Repetition

/-! ### Beginnings of a text -/

section Beginnings

variable {cs : List Char} {m n : Nat}

/-- A beginning of a text leaves less of it exactly if it holds a character. -/
lemma length_drop_lt_iff (hm : m ≤ cs.length) :
    (cs.drop m).length < cs.length ↔ cs.take m ≠ [] := by
  rw [← List.length_pos_iff, List.length_take_of_le hm, List.length_drop]
  omega

/-- Two parts of the beginning of a text. -/
lemma exists_tail_of_append {a b : List Char} (h : a ++ b = cs.take n) (hn : n ≤ cs.length) :
    ∃ tail, cs = a ++ (b ++ tail) ∧ n = a.length + b.length := by
  refine ⟨cs.drop n, ?_, ?_⟩
  · rw [← List.append_assoc, h, List.take_append_drop]
  · rw [← List.length_append, h, List.length_take_of_le hn]

/-- The beginning of a text is one followed by another. -/
lemma add_le_length {k : Nat} (hm : m ≤ cs.length) (hk : k ≤ (cs.drop m).length) :
    m + k ≤ cs.length := by
  rw [List.length_drop] at hk
  omega

end Beginnings

/-- Further rounds of a repetition take the beginnings in the repetition of its language. -/
lemma mem_roundsLengths_iff_kstar {body : List Char → List Nat} {L : Language Char}
    (hbody : ∀ cs n, n ∈ body cs ↔ n ≤ cs.length ∧ cs.take n ∈ L) (lazy : Bool) (cs : List Char)
    (n : Nat) : n ∈ roundsLengths body lazy cs ↔ n ≤ cs.length ∧ cs.take n ∈ L∗ := by
  -- a round that takes nothing is not followed by another, so what is left gets shorter
  induction hl : cs.length using Nat.strongRecOn generalizing cs n with
  | ind l ih =>
      subst hl
      rw [mem_roundsLengths_iff, mem_kstar_iff]
      constructor
      · rintro (rfl | ⟨m, hm, hlt, k, hk, rfl⟩)
        · exact ⟨Nat.zero_le _, .inl List.take_zero⟩
        · obtain ⟨hle, ha⟩ := (hbody cs m).1 hm
          obtain ⟨hk, hb⟩ := (ih _ hlt (cs.drop m) k rfl).1 hk
          exact ⟨add_le_length hle hk,
            .inr ⟨_, ha, (length_drop_lt_iff hle).1 hlt, _, hb, List.take_add.symm⟩⟩
      · rintro ⟨hn, he | ⟨a, ha, hne, b, hb, he⟩⟩
        · left
          rw [← List.length_take_of_le hn, he, List.length_nil]
        · obtain ⟨tail, rfl, rfl⟩ := exists_tail_of_append he hn
          have hm : a.length ∈ body (a ++ (b ++ tail)) := (hbody _ _).2 (by simpa using ha)
          have hlt := (length_drop_lt_iff ((hbody _ _).1 hm).1).2 (by simpa using hne)
          have hk := (ih _ hlt _ b.length rfl).2 (by simpa using hb)
          exact .inr ⟨a.length, hm, hlt, b.length, hk, rfl⟩

/-- **The runs of an expression take the beginnings of a text that are in its language.** -/
theorem mem_lengths_iff {r : Regex} {cs : List Char} {n : Nat} :
    n ∈ r.lengths cs ↔ n ≤ cs.length ∧ cs.take n ∈ r.language := by
  induction r generalizing cs n with
  | empty =>
      rw [lengths, List.mem_singleton, language, Language.mem_one]
      constructor
      · rintro rfl
        exact ⟨Nat.zero_le _, List.take_zero⟩
      · rintro ⟨hn, he⟩
        rw [← List.length_take_of_le hn, he, List.length_nil]
  | set s =>
      change _ ↔ n ≤ cs.length ∧ ∃ c, s.contains c = true ∧ cs.take n = [c]
      cases cs with
      | nil => simp [lengths]
      | cons d cs =>
          rw [lengths]
          constructor
          · intro h
            split at h
            · next hd =>
                rw [List.mem_singleton.1 h]
                exact ⟨Nat.le_add_left 1 _, d, hd, rfl⟩
            · cases h
          · rintro ⟨hn, c, hc, he⟩
            obtain rfl : n = 1 := by
              rw [← List.length_take_of_le hn, he, List.length_singleton]
            obtain rfl : d = c := List.head_eq_of_cons_eq he
            rw [if_pos hc]
            exact List.mem_singleton_self 1
  | anchor a => exact iff_of_false List.not_mem_nil fun h => Language.notMem_zero _ h.2
  | seq r s ihr ihs =>
      rw [lengths, List.mem_flatMap, mem_language_seq]
      constructor
      · rintro ⟨m, hm, hn⟩
        obtain ⟨k, hk, rfl⟩ := List.mem_map.1 hn
        obtain ⟨hle, ha⟩ := ihr.1 hm
        obtain ⟨hk, hb⟩ := ihs.1 hk
        exact ⟨add_le_length hle hk, _, ha, _, hb, List.take_add.symm⟩
      · rintro ⟨hn, a, ha, b, hb, he⟩
        obtain ⟨tail, rfl, rfl⟩ := exists_tail_of_append he hn
        have hm : a.length ∈ r.lengths (a ++ (b ++ tail)) := ihr.2 (by simpa using ha)
        have hk : b.length ∈ s.lengths ((a ++ (b ++ tail)).drop a.length) :=
          ihs.2 (by simpa using hb)
        exact ⟨a.length, hm, List.mem_map_of_mem hk⟩
  | alt r s ihr ihs =>
      rw [lengths, List.mem_append, ihr, ihs, language, Language.mem_add, and_or_left]
  | plus r lazy ih =>
      have hrounds := mem_roundsLengths_iff_kstar (fun _ _ => ih) lazy
      rw [lengths, List.mem_flatMap, language, mem_mul_kstar_iff]
      constructor
      · rintro ⟨m, hm, hn⟩
        obtain ⟨hle, ha⟩ := ih.1 hm
        split at hn
        · next hlt =>
            obtain ⟨k, hk, rfl⟩ := List.mem_map.1 hn
            obtain ⟨hk, hb⟩ := (hrounds _ _).1 hk
            exact ⟨add_le_length hle hk,
              .inr ⟨_, ha, (length_drop_lt_iff hle).1 hlt, _, hb, List.take_add.symm⟩⟩
        · next hnot =>
            have he : cs.take m = [] := not_not.1 (mt (length_drop_lt_iff hle).2 hnot)
            rw [List.mem_singleton.1 hn]
            exact ⟨hle, .inl ⟨he, he ▸ ha⟩⟩
      · rintro ⟨hn, ⟨he, ha⟩ | ⟨a, ha, hne, b, hb, he⟩⟩
        · have hm : n ∈ r.lengths cs := ih.2 ⟨hn, he.symm ▸ ha⟩
          refine ⟨n, hm, ?_⟩
          rw [if_neg (mt (length_drop_lt_iff hn).1 (not_not.2 he))]
          exact List.mem_singleton_self n
        · obtain ⟨tail, rfl, rfl⟩ := exists_tail_of_append he hn
          have hm : a.length ∈ r.lengths (a ++ (b ++ tail)) := ih.2 (by simpa using ha)
          have hlt := (length_drop_lt_iff (ih.1 hm).1).2 (by simpa using hne)
          have hk := (hrounds ((a ++ (b ++ tail)).drop a.length) b.length).2 (by simpa using hb)
          refine ⟨a.length, hm, ?_⟩
          rw [if_pos hlt]
          exact List.mem_map_of_mem hk
  | group name r ih => exact ih

/-- **They take a text as a whole exactly if it is in the language.** -/
theorem length_mem_lengths_iff {r : Regex} {cs : List Char} :
    cs.length ∈ r.lengths cs ↔ cs ∈ r.language := by
  rw [mem_lengths_iff, List.take_length, and_iff_right (Nat.le_refl _)]

/-! ### Sets of characters -/

section Sets

variable {s : CharSet} {cs : List Char}

/-- A set denotes its characters. -/
lemma mem_language_set : cs ∈ (set s).language ↔ ∃ c, s.contains c = true ∧ cs = [c] := Iff.rfl

/-- A character in front of an expression. -/
lemma mem_language_seq_single {c : Char} {r : Regex} :
    cs ∈ (seq (set (.single c)) r).language ↔ ∃ rest ∈ r.language, c :: rest = cs := by
  rw [mem_language_seq]
  simp only [mem_language_set, CharSet.contains_single]
  constructor
  · rintro ⟨_, ⟨_, rfl, rfl⟩, rest, hrest, rfl⟩
    exact ⟨rest, hrest, rfl⟩
  · rintro ⟨rest, hrest, rfl⟩
    exact ⟨[c], ⟨c, rfl, rfl⟩, rest, hrest, rfl⟩

/-- Rounds of a set denote the texts of its characters. -/
lemma mem_kstar_set : cs ∈ (set s).language∗ ↔ ∀ c ∈ cs, s.contains c = true := by
  induction cs with
  | nil => simp [Language.nil_mem_kstar]
  | cons c cs ih =>
      rw [mem_kstar_iff, List.forall_mem_cons, ← ih]
      simp only [mem_language_set]
      constructor
      · rintro (he | ⟨_, ⟨d, hd, rfl⟩, -, b, hb, he⟩)
        · cases he
        · cases he
          exact ⟨hd, hb⟩
      · rintro ⟨hc, hcs⟩
        exact .inr ⟨[c], ⟨c, hc, rfl⟩, List.cons_ne_nil c [], cs, hcs, rfl⟩

/-- **A repeated set denotes the texts of its characters, without the empty one.** -/
theorem mem_language_plus_set {lazy : Bool} :
    cs ∈ (plus (set s) lazy).language ↔ cs ≠ [] ∧ ∀ c ∈ cs, s.contains c = true := by
  rw [language, mem_mul_kstar_iff, ← mem_kstar_set, mem_kstar_iff]
  constructor
  · rintro (⟨-, c, -, he⟩ | ⟨a, ha, hne, b, hb, he⟩)
    · cases he
    · exact ⟨fun hnil => hne (List.append_eq_nil_iff.1 (he.trans hnil)).1,
        .inr ⟨a, ha, hne, b, hb, he⟩⟩
  · rintro ⟨hne, he | h⟩
    · exact absurd he hne
    · exact .inr h

/-- **Sets in front of an expression denote as many characters more.** -/
theorem mem_language_times_set {r : Regex} {n : Nat} :
    cs ∈ (times (set s) r n).language ↔
      ∃ a b, a ++ b = cs ∧ a.length = n ∧ (∀ c ∈ a, s.contains c = true) ∧ b ∈ r.language := by
  induction n generalizing cs with
  | zero =>
      constructor
      · intro h
        exact ⟨[], cs, rfl, rfl, nofun, h⟩
      · rintro ⟨a, b, rfl, ha, -, hb⟩
        rw [List.length_eq_zero_iff.1 ha]
        exact hb
  | succ n ih =>
      rw [times, mem_language_seq]
      simp only [ih]
      constructor
      · rintro ⟨_, ⟨c, hc, rfl⟩, _, ⟨a, b, rfl, rfl, ha, hb⟩, rfl⟩
        exact ⟨c :: a, b, rfl, rfl, List.forall_mem_cons.2 ⟨hc, ha⟩, hb⟩
      · rintro ⟨_ | ⟨c, a⟩, b, rfl, hn, ha, hb⟩
        · cases hn
        · obtain ⟨hc, ha⟩ := List.forall_mem_cons.1 ha
          exact ⟨[c], ⟨c, hc, rfl⟩, a ++ b, ⟨a, b, rfl, Nat.succ.inj hn, ha, hb⟩, rfl⟩

end Sets

end HttpRouting.Regex
