/-
The values that the built-in types accept.

* `AttributeType.IsSelfContained.accepts_iff_mem_language`: a type accepts the values in the
  language of its pattern;
* `TypeRegistry.Accepts`: a registry has a type with a name, and this type accepts a value;
* `CharSet.anyOf`, `CharSet.contains_anyOf_digits`, `CharSet.contains_anyOf_letters`: the characters
  that a bracketed class lists;
* `defaultRegexes`, `map_regex_default`: the expressions of the built-in types;
* `TypeRegistry.accepts_default`: the values of each built-in type.

The letters and digits of these types are the ones of ASCII, whatever a value is made of.
-/
import HttpRouting.Proofs.AttributeType.Greedy
import HttpRouting.Proofs.AttributeType.Lengths
import HttpRouting.Proofs.Regex.Language

namespace HttpRouting

/-! ### Types and languages -/

/-- **A type accepts the values in the language of its pattern.** -/
theorem AttributeType.IsSelfContained.accepts_iff_mem_language {t : AttributeType}
    (h : t.IsSelfContained) {value : List Char} :
    t.accepts value = true ↔ value ∈ t.regex.language := by
  rw [h.accepts_iff, lengths, Regex.length_mem_lengths_iff]

/-- A registry has a type with a name, and this type accepts a value. -/
def TypeRegistry.Accepts (r : TypeRegistry) (name value : String) : Prop :=
  ∃ t, r.find? name = some t ∧ t.accepts value.toList = true

/-! ### Bracketed classes -/

namespace CharSet

/-- The characters that a bracketed class lists. -/
def anyOf (items : List CharSet) : CharSet :=
  items.foldl union none

lemma contains_foldl_union {s : CharSet} {items : List CharSet} {c : Char} :
    (items.foldl union s).contains c = true ↔
      s.contains c = true ∨ ∃ i ∈ items, i.contains c = true := by
  induction items generalizing s with
  | nil => simp
  | cons i items ih => rw [List.foldl_cons, ih, contains_union, List.exists_mem_cons_iff, or_assoc]

lemma contains_anyOf {items : List CharSet} {c : Char} :
    (anyOf items).contains c = true ↔ ∃ i ∈ items, i.contains c = true := by
  rw [anyOf, contains_foldl_union]
  exact or_iff_right nofun

/-- The ASCII digits. -/
def digits : CharSet := interval '0' '9' .exact

/-- The small ASCII letters. -/
def lowerLetters : CharSet := interval 'a' 'z' .exact

/-- The capital ASCII letters. -/
def upperLetters : CharSet := interval 'A' 'Z' .exact

variable {c : Char}

lemma contains_digits : digits.contains c = true ↔ c.isDigit = true := by
  simp [digits, contains, Text.Folding.forms, between, Char.isDigit, Char.le_def]

lemma contains_letters :
    lowerLetters.contains c = true ∨ upperLetters.contains c = true ↔ c.isAlpha = true := by
  delta Char.isAlpha Char.isUpper Char.isLower
  simp [lowerLetters, upperLetters, contains, Text.Folding.forms, between, Char.le_def, or_comm]

lemma contains_anyOf_digits : (anyOf [digits]).contains c = true ↔ c.isDigit = true := by
  rw [contains_anyOf, List.exists_mem_cons_iff, contains_digits]
  exact or_iff_left fun ⟨_, h, _⟩ => List.not_mem_nil h

/-- Letters, and what other items of a class list. -/
lemma contains_anyOf_letters {others : List CharSet} :
    (anyOf (lowerLetters :: upperLetters :: others)).contains c = true ↔
      c.isAlpha = true ∨ ∃ i ∈ others, i.contains c = true := by
  rw [contains_anyOf, List.exists_mem_cons_iff, List.exists_mem_cons_iff, ← or_assoc,
    contains_letters]

end CharSet

/-! ### The built-in types -/

/-- As many ASCII digits as are given. -/
def Regex.digitRun (count : Nat) : Regex :=
  times (set (.anyOf [.digits])) empty count

/-- The expressions of the built-in types. -/
def defaultRegexes : List (String × Regex) :=
  [("any", .plus (.set (.compl (.anyOf [.single '/']))) false),
   ("alnum", .plus (.set (.anyOf [.lowerLetters, .upperLetters, .digits])) false),
   ("alpha", .plus (.set (.anyOf [.lowerLetters, .upperLetters])) false),
   ("date", .seq (.digitRun 4) (.seq (.set (.single '-')) (.seq (.digitRun 2)
      (.seq (.set (.single '-')) (.digitRun 2))))),
   ("digit", .set (.anyOf [.digits])),
   ("number", .plus (.set (.anyOf [.digits])) false),
   ("word", .plus (.set (.anyOf [.lowerLetters, .upperLetters, .digits, .single '_'])) false)]

lemma Regex.mem_language_digitRun {cs : List Char} {n : Nat} :
    cs ∈ (digitRun n).language ↔ cs.length = n ∧ ∀ c ∈ cs, c.isDigit = true := by
  rw [digitRun, mem_language_times_set]
  simp only [CharSet.contains_anyOf_digits]
  constructor
  · rintro ⟨a, b, rfl, ha, hdigits, rfl⟩
    rw [List.append_nil]
    exact ⟨ha, hdigits⟩
  · rintro ⟨hlength, hdigits⟩
    exact ⟨cs, [], List.append_nil cs, hlength, hdigits, rfl⟩

/-- A year, a month and a day as digits, with dashes between them. -/
lemma Regex.mem_language_date {cs : List Char} :
    cs ∈ (seq (digitRun 4) (.seq (.set (.single '-')) (.seq (digitRun 2)
        (.seq (.set (.single '-')) (digitRun 2))))).language ↔
      ∃ year month day : List Char, cs = year ++ '-' :: month ++ '-' :: day ∧
        year.length = 4 ∧ month.length = 2 ∧ day.length = 2 ∧
        ∀ c ∈ year ++ month ++ day, c.isDigit = true := by
  simp only [mem_language_seq (r := digitRun _), mem_language_seq_single, mem_language_digitRun]
  constructor
  · rintro ⟨year, ⟨hyear, hyears⟩, _, ⟨_, ⟨month, ⟨hmonth, hmonths⟩, _, ⟨day, ⟨hday, hdays⟩, rfl⟩,
      rfl⟩, rfl⟩, rfl⟩
    refine ⟨year, month, day, by simp, hyear, hmonth, hday, ?_⟩
    exact List.forall_mem_append.2 ⟨List.forall_mem_append.2 ⟨hyears, hmonths⟩, hdays⟩
  · rintro ⟨year, month, day, rfl, hyear, hmonth, hday, hdigits⟩
    obtain ⟨hdigits, hdays⟩ := List.forall_mem_append.1 hdigits
    obtain ⟨hyears, hmonths⟩ := List.forall_mem_append.1 hdigits
    exact ⟨year, ⟨hyear, hyears⟩, _, ⟨_, ⟨month, ⟨hmonth, hmonths⟩, _, ⟨day, ⟨hday, hdays⟩, rfl⟩,
      rfl⟩, rfl⟩, by simp⟩

namespace TypeRegistry

/-- These are what the patterns of the built-in types stand for. -/
lemma map_regex_default :
    default.types.map (fun t => (t.name, t.regex)) = defaultRegexes := by
  decide +kernel

/-- Looking up what types have by their names. -/
lemma lookup_map_name {β : Type} (r : TypeRegistry) (f : AttributeType → β) (name : String) :
    (r.types.map fun t => (t.name, f t)).lookup name = (r.find? name).map f := by
  rw [find?]
  induction r.types with
  | nil => rfl
  | cons t ts ih =>
      rw [List.map_cons, List.lookup_cons, List.find?_cons, ih, Bool.beq_comm]
      cases t.name == name <;> rfl

/-- A built-in type accepts the values in the language of its expression. -/
lemma accepts_default_iff {name value : String} {r : Regex}
    (h : defaultRegexes.lookup name = some r) :
    default.Accepts name value ↔ value.toList ∈ r.language := by
  rw [← map_regex_default, lookup_map_name] at h
  obtain ⟨t, ht, rfl⟩ := Option.map_eq_some_iff.1 h
  have hself := (isGreedy_default t (mem_of_find? ht)).1
  rw [← hself.accepts_iff_mem_language]
  constructor
  · rintro ⟨t', ht', hvalue⟩
    obtain rfl := Option.some.inj (ht'.symm.trans ht)
    exact hvalue
  · exact fun hvalue => ⟨t, ht, hvalue⟩

/-- So does one that repeats a class. -/
lemma accepts_default_plus_iff {name value : String} {s : CharSet}
    (h : defaultRegexes.lookup name = some (.plus (.set s) false)) :
    default.Accepts name value ↔
      value.toList ≠ [] ∧ ∀ c ∈ value.toList, s.contains c = true := by
  rw [accepts_default_iff h, Regex.mem_language_plus_set]

/-- **The values of the built-in types.** -/
theorem accepts_default (value : String) :
    (default.Accepts "any" value ↔ value.toList ≠ [] ∧ '/' ∉ value.toList) ∧
    (default.Accepts "alnum" value ↔
      value.toList ≠ [] ∧ ∀ c ∈ value.toList, c.isAlpha = true ∨ c.isDigit = true) ∧
    (default.Accepts "alpha" value ↔
      value.toList ≠ [] ∧ ∀ c ∈ value.toList, c.isAlpha = true) ∧
    (default.Accepts "number" value ↔
      value.toList ≠ [] ∧ ∀ c ∈ value.toList, c.isDigit = true) ∧
    (default.Accepts "digit" value ↔ ∃ c, c.isDigit = true ∧ value.toList = [c]) ∧
    (default.Accepts "word" value ↔
      value.toList ≠ [] ∧ ∀ c ∈ value.toList, c.isAlpha = true ∨ c.isDigit = true ∨ c = '_') ∧
    (default.Accepts "date" value ↔ ∃ year month day : List Char,
      value.toList = year ++ '-' :: month ++ '-' :: day ∧
        year.length = 4 ∧ month.length = 2 ∧ day.length = 2 ∧
        ∀ c ∈ year ++ month ++ day, c.isDigit = true) := by
  refine ⟨?any, ?alnum, ?alpha, ?number, ?digit, ?word, ?date⟩
  case any =>
    rw [accepts_default_plus_iff rfl]
    simp only [CharSet.contains_compl, CharSet.contains_anyOf, List.mem_singleton, exists_eq_left,
      CharSet.contains_single]
    rw [List.forall_mem_ne']
  case alnum =>
    rw [accepts_default_plus_iff rfl]
    simp only [CharSet.contains_anyOf_letters, List.mem_singleton, exists_eq_left,
      CharSet.contains_digits]
  case alpha =>
    rw [accepts_default_plus_iff rfl]
    simp only [CharSet.contains_anyOf_letters, List.not_mem_nil, false_and, exists_false, or_false]
  case number =>
    rw [accepts_default_plus_iff rfl]
    simp only [CharSet.contains_anyOf_digits]
  case digit =>
    rw [accepts_default_iff rfl, Regex.mem_language_set]
    simp only [CharSet.contains_anyOf_digits]
  case word =>
    rw [accepts_default_plus_iff rfl]
    simp only [CharSet.contains_anyOf_letters, List.exists_mem_cons_iff, List.not_mem_nil,
      false_and, exists_false, or_false, CharSet.contains_digits, CharSet.contains_single]
  case date => rw [accepts_default_iff rfl, Regex.mem_language_date]

end TypeRegistry

end HttpRouting
