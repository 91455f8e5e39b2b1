/-
How much of a text an escape is.

* `Escape.delimited_readHex?`, `Escape.delimited_readProperty?`: a code point and a property end
  themselves;
* `Escape.bounded_readWordEdge?`: the edge of a word may be named by what follows;
* `Escape.bounded_read?`: so an escape ends where what follows settles it.
-/
import HttpRouting.Proofs.Regex.Skipping
import HttpRouting.Regex.Escape

namespace HttpRouting.Escape

/-- A code point ends itself. -/
lemma delimited_readHex? (m : Mode) {count : Nat} (hcount : 0 < count) :
    Delimited (readHex? m count) where
  suffix := by
    intro cs x rest h
    unfold readHex? at h
    split at h
    · next hskip =>
        split at h
        · next htake =>
            obtain ⟨c, -, he⟩ := Option.map_eq_some_iff.1 h
            cases he
            exact (Mode.suffix_of_take htake).trans (Mode.suffix_of_skip hskip)
        · exact nomatch h
    · have hrest := m.take_suffix (Text.isDigitOf 16) count cs
      dsimp only at h
      split at h
      · obtain ⟨c, -, he⟩ := Option.map_eq_some_iff.1 h
        cases he
        exact hrest
      · exact nomatch h
  append := by
    intro cs x rest h after
    unfold readHex? at h
    split at h
    · next ds hskip =>
        split at h
        · next d es rest' htake =>
            obtain ⟨c, hc, he⟩ := Option.map_eq_some_iff.1 h
            cases he
            simp only [readHex?, Mode.skip_append hskip, Mode.take_append htake, hc,
              Option.map_some]
        · exact nomatch h
    · next hbrace =>
        dsimp only at h
        split at h
        · next hlen =>
            -- there are digits, so the text does not begin with a brace only later
            cases hskip : m.skip cs with
            | nil =>
                rw [Mode.take_eq_nil hskip] at hlen
                exact absurd hlen hcount.ne
            | cons c ds =>
                have hc : c ≠ '{' := by
                  rintro rfl
                  exact hbrace ds hskip
                obtain ⟨b, hb, he⟩ := Option.map_eq_some_iff.1 h
                cases he
                unfold readHex?
                rw [Mode.skip_append hskip]
                split
                · next heq =>
                    cases heq
                    exact absurd rfl hc
                · dsimp only
                  rw [Mode.take_append_of_length rfl hlen]
                  dsimp only
                  rw [if_pos hlen, hb, Option.map_some]
        · exact nomatch h

/-- A property ends itself. -/
lemma delimited_readProperty? (m : Mode) (negated : Bool) :
    Delimited (readProperty? m negated) where
  suffix := by
    intro cs x rest h
    unfold readProperty? at h
    dsimp only at h
    split at h
    · exact nomatch h
    · split at h
      · exact nomatch h
      · next hskip =>
          split at h
          · next htake =>
              obtain ⟨s, -, he⟩ := Option.map_eq_some_iff.1 h
              cases he
              exact (Mode.suffix_of_take htake).trans (Mode.suffix_of_skip hskip)
          · exact nomatch h
      · exact nomatch h
      · next hskip =>
          obtain ⟨s, -, he⟩ := Option.map_eq_some_iff.1 h
          cases he
          exact Mode.suffix_of_skip hskip
  append := by
    intro cs x rest h after
    unfold readProperty? at h ⊢
    dsimp only at h ⊢
    split at h
    · exact nomatch h
    · next hascii =>
        rw [if_neg hascii]
        split at h
        · exact nomatch h
        · next ds hskip =>
            rw [Mode.skip_append hskip]
            split at h
            · next name rest' htake =>
                obtain ⟨s, hs, he⟩ := Option.map_eq_some_iff.1 h
                cases he
                simp only [Mode.take_append htake, hs, Option.map_some]
            · exact nomatch h
        · exact nomatch h
        · next c ds hbrace hslash hskip =>
            rw [Mode.skip_append hskip]
            obtain ⟨s, hs, he⟩ := Option.map_eq_some_iff.1 h
            cases he
            split
            · next heq => exact nomatch heq
            · next heq =>
                cases heq
                exact (hbrace rfl).elim
            · next heq =>
                cases heq
                exact (hslash rfl).elim
            · next heq =>
                cases heq
                rw [hs, Option.map_some]

/-- The edge of a word may be named by what follows. -/
lemma bounded_readWordEdge? (m : Mode) : Bounded m (readWordEdge? m) where
  suffix := by
    intro cs x rest h
    unfold readWordEdge? at h
    split at h
    · next ds =>
        split at h
        · exact nomatch h
        · cases h
          exact List.suffix_refl _
        · next htake =>
            obtain ⟨e, -, he⟩ := Option.map_eq_some_iff.1 h
            cases he
            exact (Mode.suffix_of_take htake).trans (List.suffix_cons _ _)
        · exact nomatch h
    · cases h
      exact List.suffix_refl _
  append := by
    intro cs x rest h after hsettled
    unfold readWordEdge? at h
    split at h
    · next ds =>
        rw [List.cons_append, readWordEdge?]
        split at h
        · exact nomatch h
        · next htake =>
            cases h
            rw [Mode.take_append htake]
            rfl
        · next name rest' hne htake =>
            obtain ⟨e, he', he⟩ := Option.map_eq_some_iff.1 h
            cases he
            rw [Mode.take_append htake]
            split
            · next heq => cases heq
            · next heq =>
                cases heq
                exact (hne rfl).elim
            · next heq =>
                cases heq
                rw [he', Option.map_some]
            · next hno => exact (hno _ _ rfl).elim
        · exact nomatch h
    · next hbrace =>
        cases h
        unfold readWordEdge?
        split
        · next heq =>
            obtain ⟨es, rfl⟩ := hsettled.eq_cons (by decide) (by decide) (by decide) heq
            exact absurd rfl (hbrace es)
        · rfl

/-- A class is one letter, which was read before. -/
lemma delimited_readClass? (m : Mode) (negated : Bool) (s : CharSet) :
    Delimited (readClass? m negated s) where
  suffix := by
    intro cs x rest h
    obtain ⟨t, -, he⟩ := Option.map_eq_some_iff.1 h
    cases he
    exact List.suffix_refl _
  append := by
    intro cs x rest h after
    obtain ⟨t, ht, he⟩ := Option.map_eq_some_iff.1 h
    cases he
    rw [readClass?, ht, Option.map_some]

/-- **An escape ends where what follows settles it.** -/
theorem bounded_read? (m : Mode) : Bounded m (read? m) where
  suffix := by
    intro cs x rest h
    unfold read? at h
    split at h
    case h_1 => exact nomatch h
    case h_2 | h_3 | h_4 | h_5 | h_6 | h_7 =>
      exact ((delimited_readClass? m _ _).suffix h).trans (List.suffix_cons _ _)
    case h_8 | h_9 =>
      exact ((delimited_readProperty? m _).suffix h).trans (List.suffix_cons _ _)
    case h_10 => exact ((bounded_readWordEdge? m).suffix h).trans (List.suffix_cons _ _)
    case h_22 | h_23 | h_24 =>
      exact (((delimited_readHex? m (by decide)).map Escape.char).suffix h).trans
        (List.suffix_cons _ _)
    case h_25 =>
      obtain ⟨-, h⟩ := Option.ite_none_right_eq_some.1 h
      cases h
      exact List.suffix_cons _ _
    all_goals
      cases h
      exact List.suffix_cons _ _
  append := by
    intro cs x rest h after hsettled
    unfold read? at h
    split at h
    case h_1 => exact nomatch h
    case h_2 | h_3 | h_4 | h_5 | h_6 | h_7 => exact (delimited_readClass? m _ _).append h after
    case h_8 | h_9 => exact (delimited_readProperty? m _).append h after
    case h_10 => exact (bounded_readWordEdge? m).append h hsettled
    case h_22 | h_23 | h_24 =>
      exact ((delimited_readHex? m (by decide)).map Escape.char).append h after
    case h_25 c ds _ _ _ _ _ _ _ _ _ _ _ _ _ _ _ _ _ _ _ _ _ _ =>
      obtain ⟨hc, h⟩ := Option.ite_none_right_eq_some.1 h
      cases h
      simp [read?, hc]
    all_goals
      cases h
      rfl

end HttpRouting.Escape
