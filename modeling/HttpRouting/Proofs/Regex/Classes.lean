/-
How much of a text a bracketed class is.

* `OpenClass.bounded_readItem?`: an item ends where what follows settles it;
* `OpenClass.readNamed?_append_eq_none`: what is no set with a name does not become one later;
* `OpenClass.begin?_append`, `OpenClass.read?_append`: the beginning and the rest of a class in
  front of another text;
* `ClassPart.delimited_read?`: a class ends itself.

A class goes on up to its closing bracket, so something is left to read wherever an item ends.
-/
import HttpRouting.Proofs.Regex.Escapes
import HttpRouting.Regex.Class

namespace HttpRouting

namespace OpenClass

/-! ### Items -/

lemma bounded_readElement? (m : Mode) : Bounded m (readElement? m) where
  suffix := by
    intro cs x rest h
    unfold readElement? at h
    split at h
    · exact nomatch h
    · split at h
      · next he =>
          obtain ⟨-, h⟩ := Option.ite_none_right_eq_some.1 h
          cases h
          exact ((Escape.bounded_read? m).suffix he).trans (List.suffix_cons _ _)
      · next he =>
          cases h
          exact ((Escape.bounded_read? m).suffix he).trans (List.suffix_cons _ _)
      · exact nomatch h
    · obtain ⟨-, h⟩ := Option.ite_none_right_eq_some.1 h
      cases h
      exact List.suffix_cons _ _
  append := by
    intro cs x rest h after hsettled
    unfold readElement? at h
    split at h
    · exact nomatch h
    · split at h
      · next he =>
          obtain ⟨hc, h⟩ := Option.ite_none_right_eq_some.1 h
          cases h
          rw [List.cons_append, readElement?, (Escape.bounded_read? m).append he hsettled]
          exact if_pos hc
      · next he =>
          cases h
          rw [List.cons_append, readElement?, (Escape.bounded_read? m).append he hsettled]
      · exact nomatch h
    · next hslash =>
        obtain ⟨hc, h⟩ := Option.ite_none_right_eq_some.1 h
        cases h
        rw [List.cons_append, readElement?.eq_3 _ _ _ hslash, if_pos hc]

lemma bounded_readInterval? (m : Mode) (first : Char ⊕ CharSet) :
    Bounded m (readInterval? m first) where
  suffix := by
    intro cs x rest h
    unfold readInterval? at h
    split at h
    · next b rest' hlast =>
        obtain ⟨-, h⟩ := Option.ite_none_right_eq_some.1 h
        cases h
        exact ((bounded_readElement? m).suffix hlast).trans (m.skip_suffix cs)
    · exact nomatch h
  append := by
    intro cs x rest h after hsettled
    unfold readInterval? at h
    split at h
    · next b rest' hlast =>
        obtain ⟨hle, h⟩ := Option.ite_none_right_eq_some.1 h
        cases h
        cases hskip : m.skip cs with
        | nil =>
            rw [hskip] at hlast
            exact nomatch hlast
        | cons c ds =>
            rw [hskip] at hlast
            have hlast' := (bounded_readElement? m).append hlast hsettled
            rw [List.cons_append] at hlast'
            unfold readInterval?
            rw [Mode.skip_append hskip, hlast']
            exact if_pos hle
    · exact nomatch h

/-- **An item ends where what follows settles it.** -/
theorem bounded_readItem? (m : Mode) : Bounded m (readItem? m) where
  suffix := by
    intro cs x rest h
    obtain ⟨⟨first, ds⟩, hfirst, h⟩ := Option.bind_eq_some_iff.1 h
    refine List.IsSuffix.trans ?_ ((bounded_readElement? m).suffix hfirst)
    dsimp only at h
    split at h
    · next es hskip =>
        split at h
        · cases h
          exact List.suffix_refl _
        · exact ((bounded_readInterval? m first).suffix h).trans (Mode.suffix_of_skip hskip)
    · cases h
      exact List.suffix_refl _
  append := by
    intro cs x rest h after hsettled
    obtain ⟨⟨first, ds⟩, hfirst, h⟩ := Option.bind_eq_some_iff.1 h
    dsimp only at h
    split at h
    · next es hskip =>
        have hfirst' := (bounded_readElement? m).append hfirst (settled_of_skip hskip after)
        simp only [readItem?, hfirst', Option.bind_some, Mode.skip_append hskip]
        cases hpeek : m.peek es with
        | some c =>
            rw [hpeek] at h
            rw [Mode.peek_append hpeek]
            split at h
            · next hc =>
                cases h
                rw [if_pos hc]
            · next hc =>
                rw [if_neg hc]
                exact (bounded_readInterval? m first).append h hsettled
        | none =>
            -- nothing is left for the other end of an interval
            rw [hpeek, if_neg (by simp)] at h
            unfold readInterval? at h
            rw [Mode.skip_eq_nil_of_peek hpeek] at h
            split at h
            · next hlast => exact nomatch hlast
            · exact nomatch h
    · next hdash =>
        cases h
        rw [readItem?, (bounded_readElement? m).append hfirst hsettled, Option.bind_some]
        dsimp only
        split
        · next hskip =>
            obtain ⟨es, hes⟩ := hsettled.skip_eq_cons (by decide) hskip
            exact (hdash es hes).elim
        · rfl

/-- An item of one character leaves nothing. -/
lemma eq_nil_of_readItem? {m : Mode} {c : Char} {s : CharSet} {rest : List Char}
    (h : readItem? m [c] = some (s, rest)) : rest = [] := by
  obtain ⟨⟨first, ds⟩, hfirst, h⟩ := Option.bind_eq_some_iff.1 h
  obtain rfl : ds = [] := by
    unfold readElement? at hfirst
    split at hfirst
    · exact nomatch hfirst
    · next heq =>
        cases heq
        exact nomatch hfirst
    · next heq =>
        cases heq
        obtain ⟨-, hfirst⟩ := Option.ite_none_right_eq_some.1 hfirst
        cases hfirst
        rfl
  simp only [Mode.skip_nil] at h
  cases h
  rfl

/-! ### Sets with a name -/

section Named

variable {cs ds rest after : List Char}

lemma skipCaret_suffix (cs : List Char) : (skipCaret cs).2 <:+ cs := by
  unfold skipCaret
  split
  · exact List.suffix_cons _ _
  · exact List.suffix_refl _

lemma skipCaret_append (hne : cs ≠ []) (after : List Char) :
    skipCaret (cs ++ after) = ((skipCaret cs).1, (skipCaret cs).2 ++ after) := by
  obtain ⟨c, cs, rfl⟩ := List.exists_cons_of_ne_nil hne
  rw [List.cons_append]
  unfold skipCaret
  split
  · next heq =>
      cases heq
      rfl
  · next hno =>
      split
      · next heq =>
          cases heq
          exact (hno _ rfl).elim
      · rfl

/-- Nothing but a caret is left out. -/
lemma mem_skipCaret {c : Char} (hc : c ≠ '^') (h : c ∈ cs) : c ∈ (skipCaret cs).2 := by
  unfold skipCaret
  split
  · exact (List.mem_cons.1 h).resolve_left hc
  · exact h

/-- A set with a name ends itself. -/
lemma delimited_readNamed? : Delimited readNamed? where
  suffix := by
    intro cs x rest h
    unfold readNamed? at h
    split at h
    · next ds =>
        dsimp only at h
        split at h
        · next hdrop =>
            cases h
            exact (((List.suffix_cons _ _).trans (suffix_of_dropWhile hdrop)).trans
              (skipCaret_suffix ds)).trans (List.suffix_cons _ _)
        · exact nomatch h
    · exact nomatch h
  append := by
    intro cs x rest h after
    unfold readNamed? at h
    split at h
    · next ds =>
        dsimp only at h
        split at h
        · next intervals rest' hname hdrop =>
            cases h
            have hne : ds ≠ [] := by
              rintro rfl
              exact nomatch hdrop
            obtain ⟨htake, hdrop'⟩ := takeWhile_append_of_stop hdrop after
            simp only [List.cons_append, readNamed?, skipCaret_append hne, htake, hdrop', hname]
        · exact nomatch h
    · exact nomatch h

/-- No set has a name with a closing bracket in it. -/
lemma namedIntervals?_eq_none {name : List Char} (h : ']' ∈ name) :
    namedIntervals? (String.ofList name) = none := by
  unfold namedIntervals?
  split
  all_goals first
    | rfl
    | (next hname =>
        have hname := congrArg String.toList hname
        rw [String.toList_ofList] at hname
        rw [hname] at h
        revert h
        decide)

/-- What is no set with a name does not become one if another text follows. -/
lemma readNamed?_append_eq_none (h : readNamed? cs = none) (hclose : ']' ∈ cs)
    (after : List Char) : readNamed? (cs ++ after) = none := by
  unfold readNamed? at h
  split at h
  · next ds =>
      have hmem : ']' ∈ ds := (List.mem_cons.1 hclose).resolve_left (by decide)
      have hclose' := mem_skipCaret (by decide) hmem
      rw [List.cons_append, readNamed?, skipCaret_append (List.ne_nil_of_mem hmem)]
      dsimp only at h ⊢
      generalize (skipCaret ds).2 = es at h hclose' ⊢
      by_cases hname : ']' ∈ es.takeWhile (· != ':')
      · -- the name would hold the bracket, and may only become longer
        rw [namedIntervals?_eq_none (mem_takeWhile_append hname after)]
      · -- the bracket stands after the colon that ends the name
        rw [← List.takeWhile_append_dropWhile (p := (· != ':')) (l := es), List.mem_append]
          at hclose'
        have hafter := hclose'.resolve_left hname
        cases hdrop : es.dropWhile (· != ':') with
        | nil =>
            rw [hdrop] at hafter
            exact nomatch hafter
        | cons c rest =>
            obtain ⟨htake, hdrop'⟩ := takeWhile_append_of_stop hdrop after
            rw [htake, hdrop']
            rw [hdrop] at h hafter
            have hc : c = ':' := by
              have hstop := List.head?_dropWhile_not (· != ':') es
              rw [hdrop] at hstop
              simpa using hstop
            subst hc
            have hrest := (List.mem_cons.1 hafter).resolve_left (by decide)
            obtain ⟨d, rest, rfl⟩ := List.exists_cons_of_ne_nil (List.ne_nil_of_mem hrest)
            split at h
            · exact nomatch h
            · next hno =>
                split
                · next hfound heq =>
                    cases heq
                    exact (hno _ _ hfound rfl).elim
                · rfl
  · next hcolon =>
      obtain ⟨c, cs, rfl⟩ := List.exists_cons_of_ne_nil (List.ne_nil_of_mem hclose)
      rw [List.cons_append, readNamed?.eq_2 _ fun ds hds => by
        cases hds
        exact hcolon _ rfl]

end Named

/-! ### Beginnings -/

section Beginnings

variable {m : Mode} {cs rest : List Char} {k : OpenClass}

lemma beginItems_suffix (m : Mode) (negated : Bool) (cs : List Char) :
    (beginItems m negated cs).2 <:+ cs := by
  have hrest := m.take_suffix (· == '-') cs.length cs
  unfold beginItems
  split
  · next htake =>
      rw [htake] at hrest
      exact (List.suffix_cons _ _).trans hrest
  · next htake =>
      rw [htake] at hrest
      exact hrest

lemma beginItems_append {negated : Bool} (h : beginItems m negated cs = (k, rest))
    (hne : rest ≠ []) (after : List Char) :
    beginItems m negated (cs ++ after) = (k, rest ++ after) := by
  unfold beginItems at h ⊢
  split at h
  · next htake =>
      cases h
      simp only [Mode.take_append htake]
  · next dashes es hno htake =>
      cases h
      obtain ⟨c, rest, rfl⟩ := List.exists_cons_of_ne_nil hne
      rw [Mode.take_append htake]
      split
      · next heq =>
          cases heq
          exact (hno _ rfl rfl).elim
      · next heq =>
          cases heq
          rfl

lemma begin?_suffix (h : begin? m cs = some (k, rest)) : rest <:+ cs := by
  unfold begin? at h
  dsimp only at h
  split at h
  · exact nomatch h
  · have hsuffix := beginItems_suffix m (skipCaret (m.skip cs)).1 (skipCaret (m.skip cs)).2
    rw [Option.some.inj h] at hsuffix
    exact (hsuffix.trans (skipCaret_suffix _)).trans (m.skip_suffix cs)

/-- The beginning of a class stays if something is left after it. -/
lemma begin?_append (h : begin? m cs = some (k, rest)) (hne : rest ≠ []) (after : List Char) :
    begin? m (cs ++ after) = some (k, rest ++ after) := by
  unfold begin? at h ⊢
  dsimp only at h ⊢
  split at h
  · exact nomatch h
  · next hascii =>
      have hitems := Option.some.inj h
      cases hskip : m.skip cs with
      | nil =>
          rw [hskip] at hitems
          exact absurd (congrArg Prod.snd hitems).symm hne
      | cons c ds =>
          rw [hskip] at hitems hascii
          rw [Mode.skip_append hskip, ← List.cons_append,
            skipCaret_append (List.cons_ne_nil c ds), if_neg hascii,
            beginItems_append hitems hne]

end Beginnings

/-! ### Whole classes -/

section Classes

variable {m : Mode} {n : Nat} {k : OpenClass} {outer : List OpenClass} {cs rest : List Char}
  {p : ClassPart}

lemma skip_ne_nil_of_read? (h : read? m n k outer cs = some (p, rest)) : m.skip cs ≠ [] := by
  intro hskip
  cases n with
  | zero => exact nomatch h
  | succ n =>
      rw [read?, hskip] at h
      exact nomatch h

/-- What is left after a class stands behind its closing bracket. -/
lemma read?_suffix (h : read? m n k outer cs = some (p, rest)) : ']' :: rest <:+ cs := by
  fun_induction read? m n k outer cs with
  | case1 | case2 | case4 | case6 | case13 => exact nomatch h
  | case3 n k outer cs ds hskip negated s ds' hnamed t ht ih =>
      exact ((ih h).trans (delimited_readNamed?.suffix hnamed)).trans (Mode.suffix_of_skip hskip)
  | case5 n k outer cs ds hskip hnamed inner ds' hbegin ih =>
      exact ((ih h).trans (begin?_suffix hbegin)).trans (Mode.suffix_of_skip hskip)
  | case7 n k cs ds hskip =>
      cases h
      exact hskip ▸ m.skip_suffix cs
  | case8 n k cs ds hskip k' outer ih => exact (ih h).trans (Mode.suffix_of_skip hskip)
  | case9 n k outer cs ds hskip ih | case10 n k outer cs ds hskip ih
  | case11 n k outer cs ds hskip ih =>
      exact ((ih h).trans (List.suffix_cons _ _)).trans (Mode.suffix_of_skip hskip)
  | case12 n k outer cs s ds _ _ _ _ _ _ hitem ih =>
      exact ((ih h).trans ((bounded_readItem? m).suffix hitem)).trans (m.skip_suffix cs)

/-- The rest of a class stays if another text follows. -/
lemma read?_append (h : read? m n k outer cs = some (p, rest)) {n' : Nat} (hn : n ≤ n')
    (after : List Char) : read? m n' k outer (cs ++ after) = some (p, rest ++ after) := by
  have hsucc : ∀ {n n' : Nat}, n + 1 ≤ n' → ∃ l, n' = l + 1 ∧ n ≤ l := fun {n n'} hn =>
    ⟨n' - 1, by omega, by omega⟩
  fun_induction read? m n k outer cs generalizing n' with
  | case1 | case2 | case4 | case6 | case13 => exact nomatch h
  | case3 n k outer cs ds hskip negated s ds' hnamed t ht ih =>
      obtain ⟨l, rfl, hl⟩ := hsucc hn
      rw [read?, Mode.skip_append hskip]
      simp only [delimited_readNamed?.append hnamed after, ht]
      exact ih h hl
  | case5 n k outer cs ds hskip hnamed inner ds' hbegin ih =>
      obtain ⟨l, rfl, hl⟩ := hsucc hn
      have hinner := read?_suffix h
      have hne : ds' ≠ [] := List.ne_nil_of_mem (hinner.subset List.mem_cons_self)
      have hclose : ']' ∈ ds := (hinner.trans (begin?_suffix hbegin)).subset List.mem_cons_self
      rw [read?, Mode.skip_append hskip]
      simp only [readNamed?_append_eq_none hnamed hclose after, begin?_append hbegin hne after]
      exact ih h hl
  | case7 n k cs ds hskip =>
      obtain ⟨l, rfl, hl⟩ := hsucc hn
      cases h
      simp only [read?, Mode.skip_append hskip]
  | case8 n k cs ds hskip k' outer ih =>
      obtain ⟨l, rfl, hl⟩ := hsucc hn
      rw [read?, Mode.skip_append hskip]
      exact ih h hl
  | case9 n k outer cs ds hskip ih | case10 n k outer cs ds hskip ih
  | case11 n k outer cs ds hskip ih =>
      obtain ⟨l, rfl, hl⟩ := hsucc hn
      rw [read?, Mode.skip_append hskip]
      exact ih h hl
  | case12 n k outer cs s ds hnil hopen hclose hinter hdiff hsymm hitem ih =>
      obtain ⟨l, rfl, hl⟩ := hsucc hn
      obtain ⟨c, es, hskip⟩ := List.exists_cons_of_ne_nil hnil
      have hds : m.skip ds ≠ [] := skip_ne_nil_of_read? h
      rw [hskip] at hopen hclose hinter hdiff hsymm hitem
      have hitem' := (bounded_readItem? m).append hitem (.inl hds : Settled m ds after)
      -- another character was there, so an operator does not come about later
      obtain ⟨d, es, rfl⟩ : ∃ d es', es = d :: es' := by
        refine List.exists_cons_of_ne_nil ?_
        rintro rfl
        rw [eq_nil_of_readItem? hitem, Mode.skip_nil] at hds
        exact hds rfl
      rw [read?, Mode.skip_append hskip]
      split
      · next heq => exact nomatch heq
      · next heq =>
          cases heq
          exact (hopen _ rfl).elim
      · next heq =>
          cases heq
          exact (hclose _ rfl).elim
      · next heq =>
          cases heq
          exact (hinter _ rfl).elim
      · next heq =>
          cases heq
          exact (hdiff _ rfl).elim
      · next heq =>
          cases heq
          exact (hsymm _ rfl).elim
      · rw [List.cons_append] at hitem'
        simp only [hitem']
        exact ih h hl

end Classes

end OpenClass

/-- **A class ends itself.** -/
theorem ClassPart.delimited_read? (m : Mode) : Delimited (ClassPart.read? m) where
  suffix := by
    intro cs x rest h
    obtain ⟨⟨k, ds⟩, hbegin, h⟩ := Option.bind_eq_some_iff.1 h
    exact ((List.suffix_cons _ _).trans (OpenClass.read?_suffix h)).trans
      (OpenClass.begin?_suffix hbegin)
  append := by
    intro cs x rest h after
    obtain ⟨⟨k, ds⟩, hbegin, h⟩ := Option.bind_eq_some_iff.1 h
    have hne : ds ≠ [] := List.ne_nil_of_mem ((OpenClass.read?_suffix h).subset List.mem_cons_self)
    rw [ClassPart.read?, OpenClass.begin?_append hbegin hne after, Option.bind_some]
    exact OpenClass.read?_append h (by simp) after

end HttpRouting
