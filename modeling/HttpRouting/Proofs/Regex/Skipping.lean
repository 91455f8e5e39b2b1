/-
Blanks and comments in front of a text, and readers that look past them.

* `Mode.skip_suffix`, `Mode.skip_append`: what is left of a text when they are left out, alone and
  if more text follows;
* `Mode.take_append`, `Mode.peek_append`: so for the characters that are taken after them;
* `Settled`: whatever follows a text, a reader that left it would find nothing else;
* `settled_closing`: a closing parenthesis settles a text;
* `Delimited`, `Bounded`: readers that know where they end, and readers that look no further than at
  what settles the text they leave.

A text may end inside a comment, which then takes a part of what follows.
-/
import HttpRouting.Regex.Mode
import Mathlib.Data.List.TakeWhile
import Mathlib.Tactic.Lemma

namespace HttpRouting

/-! ### Prefixes of a text -/

section While

variable {p : Char → Bool} {cs rest : List Char} {c : Char}

/-- What stops a prefix inside a text stops it if more text follows. -/
lemma takeWhile_append_of_stop (h : cs.dropWhile p = c :: rest) (after : List Char) :
    (cs ++ after).takeWhile p = cs.takeWhile p ∧
      (cs ++ after).dropWhile p = c :: (rest ++ after) := by
  have hlen := congrArg List.length (List.takeWhile_append_dropWhile (p := p) (l := cs))
  rw [h, List.length_append, List.length_cons] at hlen
  constructor
  · rw [List.takeWhile_append, if_neg (by omega)]
  · rw [List.dropWhile_append, h]
    rfl

/-- A prefix only becomes longer. -/
lemma mem_takeWhile_append (h : c ∈ cs.takeWhile p) (after : List Char) :
    c ∈ (cs ++ after).takeWhile p := by
  rw [List.takeWhile_append]
  split
  · exact List.mem_append_left _ ((List.takeWhile_prefix p).subset h)
  · exact h

/-- What follows a prefix and its stop is the end of the text. -/
lemma suffix_of_dropWhile (h : cs.dropWhile p = c :: rest) : rest <:+ cs :=
  (List.suffix_cons c rest).trans (h ▸ List.dropWhile_suffix p)

end While

namespace Mode

variable {m : Mode} {p : Char → Bool} {cs ds rest after : List Char} {c : Char} {n k : Nat}

/-! ### Leaving out -/

lemma skipTrivia_suffix (inside : Bool) (cs : List Char) : skipTrivia inside cs <:+ cs := by
  fun_induction skipTrivia inside cs with
  | case1 => exact List.suffix_refl _
  | case2 c cs ih => exact ih.trans (List.suffix_cons _ _)
  | case3 c cs hblank ih => exact ih.trans (List.suffix_cons _ _)
  | case4 cs hblank ih => exact ih.trans (List.suffix_cons _ _)
  | case5 c cs => exact List.suffix_refl _

/-- What is left is the end of the text. -/
lemma skip_suffix (m : Mode) (cs : List Char) : m.skip cs <:+ cs := by
  rw [skip]
  split
  · exact skipTrivia_suffix false cs
  · exact List.suffix_refl cs

lemma suffix_of_skip (h : m.skip cs = c :: rest) : rest <:+ cs :=
  (List.suffix_cons c rest).trans (h ▸ m.skip_suffix cs)

lemma skipTrivia_append {inside : Bool} (h : skipTrivia inside cs = c :: rest)
    (after : List Char) : skipTrivia inside (cs ++ after) = c :: (rest ++ after) := by
  fun_induction skipTrivia inside cs with
  | case1 => exact nomatch h
  | case2 d cs ih => exact ih h
  | case3 d cs hblank ih => rw [List.cons_append, skipTrivia, if_pos hblank, ih h]
  | case4 cs hblank ih => rw [List.cons_append, skipTrivia, if_neg hblank, if_pos rfl, ih h]
  | case5 d cs hblank hsign =>
      cases h
      rw [List.cons_append, skipTrivia, if_neg hblank, if_neg hsign]

/-- What is left stays if more text follows. -/
lemma skip_append (h : m.skip cs = c :: rest) (after : List Char) :
    m.skip (cs ++ after) = c :: (rest ++ after) := by
  rw [skip] at h ⊢
  split
  · next hm => exact skipTrivia_append (by rwa [if_pos hm] at h) after
  · next hm =>
      rw [if_neg hm] at h
      rw [h, List.cons_append]

lemma skipTrivia_append_of_nil {inside : Bool} (h : skipTrivia inside cs = []) :
    ∃ inside', ∀ after, skipTrivia inside (cs ++ after) = skipTrivia inside' after := by
  fun_induction skipTrivia inside cs with
  | case1 inside => exact ⟨inside, fun _ => rfl⟩
  | case2 d cs ih => exact ih h
  | case3 d cs hblank ih =>
      obtain ⟨inside', hafter⟩ := ih h
      exact ⟨inside', fun after => by rw [List.cons_append, skipTrivia, if_pos hblank, hafter]⟩
  | case4 cs hblank ih =>
      obtain ⟨inside', hafter⟩ := ih h
      refine ⟨inside', fun after => ?_⟩
      rw [List.cons_append, skipTrivia, if_neg hblank, if_pos rfl, hafter]
  | case5 => exact nomatch h

/-- A text that is left out altogether ends inside a comment, or does not. -/
lemma skip_append_of_nil (h : m.skip cs = []) :
    (∀ after, m.skip (cs ++ after) = m.skip after) ∨
      ∀ after, m.skip (cs ++ after) = skipTrivia true after := by
  rw [skip] at h
  split at h
  · next hm =>
      obtain ⟨inside, hafter⟩ := skipTrivia_append_of_nil h
      cases inside with
      | false => exact .inl fun after => by rw [skip, skip, if_pos hm, if_pos hm, hafter]
      | true => exact .inr fun after => by rw [skip, if_pos hm, hafter]
  · subst h
    exact .inl fun _ => rfl

lemma skip_nil (m : Mode) : m.skip [] = [] := by
  rw [skip]
  split <;> rfl

lemma skip_cons (m : Mode) (hblank : Text.isBlank c = false) (hsign : c ≠ '#')
    (cs : List Char) : m.skip (c :: cs) = c :: cs := by
  rw [skip]
  split
  · rw [skipTrivia, if_neg (by simp [hblank]), if_neg hsign]
  · rfl

lemma skip_closing (m : Mode) (cs : List Char) : m.skip (')' :: cs) = ')' :: cs :=
  m.skip_cons (by decide) (by decide) cs

/-- Blanks alone are left out, inside a comment and outside. -/
lemma skipTrivia_eq_nil (inside : Bool) (h : ∀ c ∈ cs, Text.isBlank c = true) :
    skipTrivia inside cs = [] := by
  induction cs generalizing inside with
  | nil => rfl
  | cons c cs ih =>
      obtain ⟨hc, hcs⟩ := List.forall_mem_cons.1 h
      cases inside with
      | true => exact ih _ hcs
      | false => rw [skipTrivia, if_pos hc, ih false hcs]

/-! ### Taking -/

lemma take_suffix (m : Mode) (p : Char → Bool) (n : Nat) (cs : List Char) :
    (m.take p n cs).2 <:+ cs := by
  induction n generalizing cs with
  | zero => exact List.suffix_refl cs
  | succ n ih =>
      have hskip := m.skip_suffix cs
      rw [take]
      split
      · exact List.nil_suffix
      · next c rest hcs =>
          rw [hcs] at hskip
          split
          · exact ((ih rest).trans (List.suffix_cons c rest)).trans hskip
          · exact hskip

lemma suffix_of_take (h : m.take p n cs = (ds, c :: rest)) : rest <:+ cs := by
  have hrest := m.take_suffix p n cs
  rw [h] at hrest
  exact (List.suffix_cons c rest).trans hrest

/-- What stops the taking inside a text stops it if more text follows. -/
lemma take_append_of_stop (hn : cs.length ≤ n) (hk : n ≤ k) (h : m.take p n cs = (ds, c :: rest))
    (after : List Char) : m.take p k (cs ++ after) = (ds, c :: (rest ++ after)) := by
  induction n generalizing cs ds k with
  | zero =>
      obtain rfl := List.eq_nil_of_length_eq_zero (Nat.le_zero.1 hn)
      exact nomatch h
  | succ n ih =>
      obtain ⟨k, rfl⟩ : ∃ k', k = k' + 1 := ⟨k - 1, by omega⟩
      rw [take] at h ⊢
      split at h
      · exact nomatch h
      · next d es hcs =>
          have hlen : (d :: es).length ≤ cs.length := hcs ▸ (m.skip_suffix cs).length_le
          rw [List.length_cons] at hlen
          rw [skip_append hcs]
          dsimp only
          cases hd : p d with
          | true =>
              rw [if_pos hd] at h
              obtain ⟨rfl, hrest⟩ := Prod.mk.inj h
              have hes : es.length ≤ n := by omega
              have htaken := ih hes (Nat.le_of_succ_le_succ hk) (Prod.ext rfl hrest)
              rw [if_pos rfl, htaken]
          | false =>
              rw [if_neg (by simp [hd])] at h
              cases h
              rw [if_neg (by simp)]

/-- All characters of a kind are taken, up to the first other one. -/
lemma take_append (h : m.take p cs.length cs = (ds, c :: rest)) (after : List Char) :
    m.take p (cs ++ after).length (cs ++ after) = (ds, c :: (rest ++ after)) :=
  take_append_of_stop (Nat.le_refl _) (by simp) h after

/-- As many characters as are wanted are taken if more text follows. -/
lemma take_append_of_length (h : m.take p n cs = (ds, rest)) (hn : ds.length = n)
    (after : List Char) : m.take p n (cs ++ after) = (ds, rest ++ after) := by
  induction n generalizing cs ds with
  | zero =>
      cases h
      rfl
  | succ n ih =>
      rw [take] at h ⊢
      split at h
      · cases h
        exact nomatch hn
      · next d es hcs =>
          rw [skip_append hcs]
          dsimp only
          cases hd : p d with
          | true =>
              rw [if_pos hd] at h
              obtain ⟨rfl, hrest⟩ := Prod.mk.inj h
              have htaken := ih (Prod.ext rfl hrest) (Nat.succ.inj hn)
              rw [if_pos rfl, htaken]
          | false =>
              rw [if_neg (by simp [hd])] at h
              cases h
              exact nomatch hn

/-- Nothing is taken from a text that is left out. -/
lemma take_eq_nil (h : m.skip cs = []) : (m.take p n cs).1 = [] := by
  cases n with
  | zero => rfl
  | succ n => rw [take, h]

/-! ### Looking ahead -/

lemma dropSign_append (h : (dropSign cs).head? = some c) (after : List Char) :
    (dropSign (cs ++ after)).head? = some c := by
  unfold dropSign at h
  split at h
  · next cs =>
      obtain ⟨ds, hds⟩ := List.head?_eq_some_iff.1 h
      rw [List.cons_append, dropSign, (takeWhile_append_of_stop hds after).2, List.head?_cons]
  · next hsign =>
      obtain ⟨ds, rfl⟩ := List.head?_eq_some_iff.1 h
      rw [List.cons_append, dropSign.eq_2 _ fun es hes => by
        cases hes
        exact hsign ds rfl, List.head?_cons]

/-- The character that is seen in a text is seen if more text follows. -/
lemma peek_append (h : m.peek cs = some c) (after : List Char) :
    m.peek (cs ++ after) = some c := by
  rw [peek] at h ⊢
  split
  · next hm =>
      rw [if_pos hm] at h
      cases hdrop : cs.dropWhile Text.isBlank with
      | nil =>
          rw [hdrop] at h
          exact nomatch h
      | cons d ds =>
          rw [hdrop] at h
          rw [(takeWhile_append_of_stop hdrop after).2, ← List.cons_append]
          exact dropSign_append h after
  · next hm =>
      rw [if_neg hm] at h
      obtain ⟨ds, rfl⟩ := List.head?_eq_some_iff.1 h
      rfl

/-- Blanks are left out first. -/
lemma skipTrivia_dropWhile (cs : List Char) :
    skipTrivia false (cs.dropWhile Text.isBlank) = skipTrivia false cs := by
  induction cs with
  | nil => rfl
  | cons c cs ih =>
      rw [List.dropWhile_cons]
      split
      · next hc => rw [skipTrivia, if_pos hc, ih]
      · rfl

/-- Where no character is seen, all is left out. -/
lemma skip_eq_nil_of_peek (h : m.peek cs = none) : m.skip cs = [] := by
  rw [peek] at h
  rw [skip]
  split
  · next hm =>
      rw [if_pos hm, List.head?_eq_none_iff] at h
      rw [← skipTrivia_dropWhile]
      unfold dropSign at h
      split at h
      · next ds hds =>
          rw [hds, skipTrivia, if_neg (by decide), if_pos rfl]
          exact skipTrivia_eq_nil true (List.dropWhile_eq_nil_iff.1 h)
      · rw [h]
        rfl
  · next hm =>
      rw [if_neg hm, List.head?_eq_none_iff] at h
      exact h

end Mode

/-! ### Readers -/

/-- Whatever follows, a reader that left this text finds nothing else: the text is not left out, or
a closing parenthesis or nothing comes after it. -/
def Settled (m : Mode) (rest after : List Char) : Prop :=
  m.skip rest ≠ [] ∨ ∀ c ∈ (m.skip (rest ++ after)).head?, c = ')'

section Settled

variable {m : Mode} {cs ds rest after : List Char} {c : Char}

/-- A closing parenthesis settles a text. -/
lemma settled_closing (m : Mode) (rest : List Char) : Settled m rest [')'] := by
  by_cases h : m.skip rest = []
  · refine .inr fun c hc => ?_
    rcases Mode.skip_append_of_nil h with hafter | hafter
    · rw [hafter, m.skip_closing] at hc
      exact (Option.some.inj hc).symm
    · rw [hafter] at hc
      exact nomatch hc
  · exact .inl h

lemma settled_of_skip (h : m.skip rest = c :: ds) (after : List Char) : Settled m rest after :=
  .inl (h ▸ List.cons_ne_nil c ds)

/-- Any other character that is read next was there before. -/
lemma Settled.skip_eq_cons (h : Settled m rest after) (hc : c ≠ ')')
    (he : m.skip (rest ++ after) = c :: ds) : ∃ es, m.skip rest = c :: es := by
  rcases h with h | h
  · obtain ⟨d, es, hes⟩ := List.exists_cons_of_ne_nil h
    rw [Mode.skip_append hes] at he
    cases he
    exact ⟨es, hes⟩
  · rw [he] at h
    exact absurd (h c rfl) hc

/-- So is one that comes next, and is not left out. -/
lemma Settled.eq_cons (h : Settled m rest after) (hc : c ≠ ')') (hblank : Text.isBlank c = false)
    (hsign : c ≠ '#') (he : rest ++ after = c :: ds) : ∃ es, rest = c :: es := by
  cases rest with
  | nil =>
      have hskip : m.skip ([] ++ after) = c :: ds := by
        rw [he]
        exact m.skip_cons hblank hsign ds
      obtain ⟨es, hes⟩ := h.skip_eq_cons hc hskip
      rw [m.skip_nil] at hes
      exact nomatch hes
  | cons d rest =>
      cases he
      exact ⟨rest, rfl⟩

end Settled

/-- A reader that knows where it ends: it leaves the end of a text, and finds the same if another
text follows. -/
structure Delimited {α : Type} (read : List Char → Reading α) : Prop where
  suffix : ∀ {cs x rest}, read cs = some (x, rest) → rest <:+ cs
  append : ∀ {cs x rest}, read cs = some (x, rest) → ∀ after,
    read (cs ++ after) = some (x, rest ++ after)

/-- A reader that looks no further than at what settles the text that it leaves. -/
structure Bounded {α : Type} (m : Mode) (read : List Char → Reading α) : Prop where
  suffix : ∀ {cs x rest}, read cs = some (x, rest) → rest <:+ cs
  append : ∀ {cs x rest}, read cs = some (x, rest) → ∀ {after}, Settled m rest after →
    read (cs ++ after) = some (x, rest ++ after)

section Readers

variable {α β : Type} {m : Mode} {read : List Char → Reading α}

lemma Delimited.map (h : Delimited read) (f : α → β) :
    Delimited fun cs => (read cs).map fun x => (f x.1, x.2) where
  suffix := by
    intro cs x rest hx
    obtain ⟨⟨y, rest'⟩, hy, he⟩ := Option.map_eq_some_iff.1 hx
    cases he
    exact h.suffix hy
  append := by
    intro cs x rest hx after
    obtain ⟨⟨y, rest'⟩, hy, he⟩ := Option.map_eq_some_iff.1 hx
    cases he
    simp only [h.append hy, Option.map_some]

end Readers

end HttpRouting
