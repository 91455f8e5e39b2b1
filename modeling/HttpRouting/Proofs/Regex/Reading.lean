/-
Reading the text of a regular expression, alone and among other texts.

* `Token.bounded_readOpening?`, `Token.bounded_readCount?`: groups and repetitions end where what
  follows settles them;
* `Token.read?_append`: so does every token;
* `Token.Reads`: what tokens a text begins with, and what is left of it;
* `Token.Reads.append`, `Token.Reads.under`, `Token.Reads.extend`: reading in a row, inside further
  groups, and in front of another text;
* `Token.readAll?_eq_some_iff`: all tokens of a text.
-/
import HttpRouting.Proofs.Regex.Classes
import HttpRouting.Regex.Token

namespace HttpRouting

namespace Token

/-! ### Groups -/

lemma delimited_readName? : Delimited readName? where
  suffix := by
    intro cs x rest h
    unfold readName? at h
    dsimp only at h
    split at h
    · next rest' hdrop =>
        obtain ⟨-, h⟩ := Option.ite_none_right_eq_some.1 h
        cases h
        exact suffix_of_dropWhile hdrop
    · exact nomatch h
  append := by
    intro cs x rest h after
    unfold readName? at h
    dsimp only at h
    split at h
    · next rest' hdrop =>
        obtain ⟨htake, hdrop'⟩ := takeWhile_append_of_stop hdrop after
        obtain ⟨hname, h⟩ := Option.ite_none_right_eq_some.1 h
        cases h
        simp only [readName?, htake, hdrop', hname, if_true]
    · exact nomatch h

lemma delimited_readFlags? (change : FlagChange) (sign pending : Bool) :
    Delimited (readFlags? change sign pending) where
  suffix := by
    intro cs x rest h
    fun_induction readFlags? change sign pending cs with
    | case1 | case3 | case4 | case6 => exact nomatch h
    | case2 change pending cs ih => exact (ih h).trans (List.suffix_cons _ _)
    | case5 | case7 =>
        cases h
        exact List.suffix_cons _ _
    | case8 change sign pending c cs hdash hcolon hclose ih =>
        obtain ⟨change', hput, h⟩ := Option.bind_eq_some_iff.1 h
        exact (ih change' h).trans (List.suffix_cons _ _)
  append := by
    intro cs x rest h after
    fun_induction readFlags? change sign pending cs with
    | case1 | case3 | case4 | case6 => exact nomatch h
    | case2 change pending cs ih =>
        rw [List.cons_append, readFlags?, if_pos rfl]
        exact ih h
    | case5 change sign pending cs hp | case7 change sign pending cs hp =>
        cases h
        rw [List.cons_append, readFlags?, if_neg hp]
    | case8 change sign pending c cs hdash hcolon hclose ih =>
        obtain ⟨change', hput, h⟩ := Option.bind_eq_some_iff.1 h
        rw [List.cons_append, readFlags?.eq_5 _ _ _ _ _ hdash hcolon hclose, hput,
          Option.bind_some]
        exact ih change' h

section Opening

variable {m : Mode} {cs rest after : List Char} {t : Token}

lemma suffix_of_readOpening? (h : readOpening? m cs = some (t, rest)) : rest <:+ cs := by
  unfold readOpening? at h
  split at h
  · next ds hskip =>
      exact (delimited_readName?.suffix h).trans (((List.suffix_cons _ _).trans
        (List.suffix_cons _ _)).trans (Mode.suffix_of_skip hskip))
  · next ds hskip =>
      exact (delimited_readName?.suffix h).trans
        ((List.suffix_cons _ _).trans (Mode.suffix_of_skip hskip))
  · next ds hlong hshort hskip =>
      exact ((delimited_readFlags? _ _ _).suffix h).trans (Mode.suffix_of_skip hskip)
  · cases h
    exact List.suffix_refl _

/-- Only a group that is numbered may yet get a name or switches. -/
lemma readOpening?_append (h : readOpening? m cs = some (t, rest))
    (hsettled : t = .opening .numbered {} → Settled m rest after) :
    readOpening? m (cs ++ after) = some (t, rest ++ after) := by
  unfold readOpening? at h
  split at h
  · next ds hskip =>
      simp only [readOpening?, Mode.skip_append hskip, List.cons_append,
        delimited_readName?.append h after]
  · next ds hskip =>
      simp only [readOpening?, Mode.skip_append hskip, List.cons_append,
        delimited_readName?.append h after]
  · next ds hlong hshort hskip =>
      have hflags := (delimited_readFlags? _ _ _).append h after
      obtain ⟨d, ds, rfl⟩ : ∃ d ds', ds = d :: ds' := by
        refine List.exists_cons_of_ne_nil ?_
        rintro rfl
        exact nomatch h
      -- a switch or a mark stands there, so no name comes about
      unfold readOpening?
      rw [Mode.skip_append hskip]
      split
      · next heq =>
          cases ds with
          | nil =>
              cases heq
              exact nomatch h
          | cons e ds =>
              cases heq
              exact (hlong _ rfl).elim
      · next heq =>
          cases heq
          exact (hshort _ rfl).elim
      · next heq =>
          cases heq
          exact hflags
      · next hno => exact (hno _ rfl).elim
  · next hlong hshort hmark =>
      cases h
      unfold readOpening?
      split
      case h_4 => rfl
      all_goals
        next hskip =>
          obtain ⟨es, hes⟩ := (hsettled rfl).skip_eq_cons (by decide) hskip
          exact (hmark _ hes).elim

end Opening

/-! ### Repetitions -/

section Laziness

variable {m : Mode} {least : Nat} {most : Option Nat} {cs rest : List Char} {t : Token}

lemma suffix_of_withLaziness (h : withLaziness m least most cs = some (t, rest)) :
    rest <:+ cs := by
  unfold withLaziness at h
  split at h
  · next hskip =>
      cases h
      exact Mode.suffix_of_skip hskip
  · cases h
    exact List.suffix_refl _

/-- The token is a repetition, so the scope stays. -/
lemma after?_of_withLaziness (h : withLaziness m least most cs = some (t, rest)) (s : Scope) :
    s.after? t = some s := by
  unfold withLaziness at h
  split at h <;>
    · cases h
      rfl

end Laziness

lemma bounded_withLaziness (m : Mode) (least : Nat) (most : Option Nat) :
    Bounded m (withLaziness m least most) where
  suffix := suffix_of_withLaziness
  append := by
    intro cs x rest h after hsettled
    unfold withLaziness at h
    split at h
    · next hskip =>
        cases h
        simp only [withLaziness, Mode.skip_append hskip]
    · next hmark =>
        cases h
        unfold withLaziness
        split
        · next hskip =>
            obtain ⟨es, hes⟩ := hsettled.skip_eq_cons (by decide) hskip
            exact (hmark es hes).elim
        · rfl

/-- A question mark that follows at once is no blank or comment, so the mode does not matter. -/
lemma bounded_withLaziness_plain (m : Mode) (least : Nat) (most : Option Nat) :
    Bounded m (withLaziness {} least most) where
  suffix := suffix_of_withLaziness
  append := by
    intro cs x rest h after hsettled
    unfold withLaziness at h
    split at h
    · next hskip =>
        cases h
        simp only [withLaziness, Mode.skip_append hskip]
    · next hmark =>
        cases h
        unfold withLaziness
        split
        · next hskip =>
            obtain ⟨es, rfl⟩ := hsettled.eq_cons (by decide) (by decide) (by decide) hskip
            exact (hmark es rfl).elim
        · rfl

lemma suffix_of_readDecimal? {m : Mode} {cs rest : List Char} {n : Nat}
    (h : readDecimal? m cs = some (n, rest)) : rest <:+ cs := by
  unfold readDecimal? at h
  dsimp only at h
  split at h
  · exact nomatch h
  · cases h
    exact ((List.dropWhile_suffix _).trans (m.take_suffix _ _ _)).trans (List.dropWhile_suffix _)

/-- A number stays if something is left after it. -/
lemma readDecimal?_append {m : Mode} {cs rest : List Char} {n : Nat}
    (h : readDecimal? m cs = some (n, rest)) (hne : rest ≠ []) (after : List Char) :
    readDecimal? m (cs ++ after) = some (n, rest ++ after) := by
  obtain ⟨d, rest, rfl⟩ := List.exists_cons_of_ne_nil hne
  unfold readDecimal? at h ⊢
  dsimp only at h ⊢
  have hle := (List.dropWhile_suffix (l := cs) Text.isBlank).length_le
  rcases htake : m.take Char.isDigit cs.length (cs.dropWhile Text.isBlank) with ⟨digits, es⟩
  rw [htake] at h
  obtain ⟨hn, h⟩ := Option.ite_none_left_eq_some.1 h
  obtain ⟨rfl, hes⟩ := Prod.mk.inj (Option.some.inj h)
  cases es with
  | nil => exact nomatch hes
  | cons e es =>
      cases hblank : cs.dropWhile Text.isBlank with
      | nil =>
          rw [hblank] at htake
          have hempty := congrArg Prod.fst htake
          rw [Mode.take_eq_nil m.skip_nil] at hempty
          exact absurd (.inl (List.isEmpty_iff.2 hempty.symm)) hn
      | cons c ds =>
          rw [hblank] at htake hle
          have htake' := Mode.take_append_of_stop hle
            (by simp : cs.length ≤ (cs ++ after).length) htake after
          rw [(takeWhile_append_of_stop hblank after).2, ← List.cons_append, htake', if_neg hn,
            ← List.cons_append, (takeWhile_append_of_stop hes after).2]
          rfl

lemma bounded_readMost? (m : Mode) (least : Nat) : Bounded m (readMost? m least) where
  suffix := by
    intro cs x rest h
    unfold readMost? at h
    split at h
    · next most ds hmost =>
        obtain ⟨-, h⟩ := Option.ite_none_right_eq_some.1 h
        exact ((suffix_of_withLaziness h).trans (List.suffix_cons _ _)).trans
          (suffix_of_readDecimal? hmost)
    · exact nomatch h
  append := by
    intro cs x rest h after hsettled
    unfold readMost? at h
    split at h
    · next most ds hmost =>
        obtain ⟨hle, h⟩ := Option.ite_none_right_eq_some.1 h
        have hmost' := readDecimal?_append hmost (List.cons_ne_nil _ _) after
        rw [List.cons_append] at hmost'
        simp only [readMost?, hmost', hle, if_true]
        exact (bounded_withLaziness m _ _).append h hsettled
    · exact nomatch h

lemma after?_of_readCount? {m : Mode} {cs rest : List Char} {t : Token}
    (h : readCount? m cs = some (t, rest)) (s : Scope) : s.after? t = some s := by
  unfold readCount? at h
  split at h
  · exact after?_of_withLaziness h s
  · split at h
    · exact after?_of_withLaziness h s
    · unfold readMost? at h
      split at h
      · exact after?_of_withLaziness (Option.ite_none_right_eq_some.1 h).2 s
      · exact nomatch h
  · exact nomatch h

/-- A counted repetition may yet become lazy. -/
lemma bounded_readCount? (m : Mode) : Bounded m (readCount? m) where
  suffix := by
    intro cs x rest h
    have hnumber : ∀ {n ds}, readDecimal? m (m.skip cs) = some (n, ds) → ds <:+ cs :=
      fun h => (suffix_of_readDecimal? h).trans (m.skip_suffix cs)
    unfold readCount? at h
    split at h
    · next hleast =>
        exact ((suffix_of_withLaziness h).trans (List.suffix_cons _ _)).trans (hnumber hleast)
    · next ds hleast =>
        refine List.IsSuffix.trans ?_ ((List.suffix_cons _ _).trans (hnumber hleast))
        split at h
        · next hskip => exact (suffix_of_withLaziness h).trans (Mode.suffix_of_skip hskip)
        · exact ((bounded_readMost? m _).suffix h).trans (m.skip_suffix ds)
    · exact nomatch h
  append := by
    intro cs x rest h after hsettled
    have hnumber : ∀ {n c ds}, readDecimal? m (m.skip cs) = some (n, c :: ds) →
        readDecimal? m (m.skip (cs ++ after)) = some (n, c :: (ds ++ after)) := by
      intro n c ds hn
      cases hskip : m.skip cs with
      | nil =>
          rw [hskip] at hn
          exact nomatch hn
      | cons d es =>
          rw [hskip] at hn
          rw [Mode.skip_append hskip, ← List.cons_append, ← List.cons_append]
          exact readDecimal?_append hn (List.cons_ne_nil _ _) after
    unfold readCount? at h
    split at h
    · next hleast =>
        simp only [readCount?, hnumber hleast]
        exact (bounded_withLaziness m _ _).append h hsettled
    · next ds hleast =>
        simp only [readCount?, hnumber hleast]
        split at h
        · next hskip =>
            rw [Mode.skip_append hskip]
            exact (bounded_withLaziness m _ _).append h hsettled
        · next hbrace =>
            cases hskip : m.skip ds with
            | nil =>
                rw [hskip] at h
                exact nomatch h
            | cons d es =>
                rw [hskip] at h hbrace
                have hmost := (bounded_readMost? m _).append h hsettled
                rw [Mode.skip_append hskip]
                split
                · next heq =>
                    cases heq
                    exact (hbrace _ rfl).elim
                · exact hmost
    · exact nomatch h

/-! ### Tokens -/

section Tokens

variable {s s' : Scope} {cs rest after : List Char} {c : Char} {t : Token}

/-- A token takes a character. -/
lemma suffix_of_readHere? {m : Mode} (h : readHere? m (c :: cs) = some (t, rest)) :
    rest <:+ cs := by
  generalize hcs : c :: cs = all at h
  unfold readHere? at h
  split at h
  case h_1 => exact nomatch h
  case h_2 =>
    cases hcs
    obtain ⟨⟨e, ds⟩, he, h⟩ := Option.map_eq_some_iff.1 h
    cases h
    exact (Escape.bounded_read? m).suffix he
  case h_3 =>
    cases hcs
    obtain ⟨⟨p, ds⟩, hp, h⟩ := Option.map_eq_some_iff.1 h
    cases h
    exact (ClassPart.delimited_read? m).suffix hp
  case h_4 =>
    cases hcs
    exact suffix_of_readOpening? h
  case h_7 =>
    cases hcs
    obtain ⟨-, h⟩ := Option.ite_none_left_eq_some.1 h
    cases h
    exact List.suffix_refl _
  case h_10 | h_11 | h_12 =>
    cases hcs
    exact suffix_of_withLaziness h
  case h_13 =>
    cases hcs
    exact (bounded_readCount? m).suffix h
  all_goals
    cases hcs
    cases h
    exact List.suffix_refl _

lemma skip_ne_nil_of_read? {m : Mode} (h : read? m cs = some (t, rest)) : m.skip cs ≠ [] := by
  intro hskip
  rw [read?, hskip] at h
  exact nomatch h

lemma length_lt_of_read? {m : Mode} (h : read? m cs = some (t, rest)) :
    rest.length < cs.length := by
  obtain ⟨c, ds, hskip⟩ := List.exists_cons_of_ne_nil (skip_ne_nil_of_read? h)
  rw [read?, hskip] at h
  have hrest := (suffix_of_readHere? h).length_le
  have hcs := (m.skip_suffix cs).length_le
  rw [hskip, List.length_cons] at hcs
  omega

/-- **A token ends where what follows settles it**, in the mode after the token. -/
theorem read?_append (h : read? s.mode cs = some (t, rest)) (hscope : s.after? t = some s')
    (hsettled : Settled s'.mode rest after) :
    read? s.mode (cs ++ after) = some (t, rest ++ after) := by
  obtain ⟨c, ds, hskip⟩ := List.exists_cons_of_ne_nil (skip_ne_nil_of_read? h)
  rw [read?, hskip] at h
  rw [read?, Mode.skip_append hskip, ← List.cons_append]
  generalize c :: ds = es at h
  unfold readHere? at h
  split at h
  case h_1 => exact nomatch h
  case h_2 =>
    obtain ⟨⟨e, fs⟩, he, h⟩ := Option.map_eq_some_iff.1 h
    cases h
    have hsame : s' = s := by cases e <;> exact (Option.some.inj hscope).symm
    rw [List.cons_append, readHere?, (Escape.bounded_read? _).append he (hsame ▸ hsettled),
      Option.map_some]
  case h_3 =>
    obtain ⟨⟨p, fs⟩, hp, h⟩ := Option.map_eq_some_iff.1 h
    cases h
    rw [List.cons_append, readHere?, (ClassPart.delimited_read? _).append hp after,
      Option.map_some]
  case h_4 =>
    rw [List.cons_append, readHere?]
    refine readOpening?_append h ?_
    rintro rfl
    cases hscope
    exact s.mode.apply_empty ▸ hsettled
  case h_7 =>
    obtain ⟨hascii, h⟩ := Option.ite_none_left_eq_some.1 h
    cases h
    rw [List.cons_append, readHere?, if_neg hascii]
  case h_10 | h_11 | h_12 =>
    obtain rfl := Option.some.inj ((after?_of_withLaziness h s).symm.trans hscope)
    exact (bounded_withLaziness_plain _ _ _).append h hsettled
  case h_13 =>
    obtain rfl := Option.some.inj ((after?_of_readCount? h s).symm.trans hscope)
    exact (bounded_readCount? _).append h hsettled
  case h_14 hslash hopen hpar hclose hbar hdot hcaret hdollar hstar hplus hmark hbrace =>
    cases h
    rw [List.cons_append, readHere?.eq_14 _ _ _ hslash hopen hpar hclose hbar hdot hcaret hdollar
      hstar hplus hmark hbrace]
  all_goals
    cases h
    rfl

end Tokens

end Token

/-! ### Scopes -/

/-- A scope inside further groups. -/
def Scope.under (s : Scope) (outer : List Mode) : Scope :=
  { s with outer := s.outer ++ outer }

/-- Groups around a token do not matter to the scope. -/
lemma Scope.after?_under {s s' : Scope} {t : Token} (h : s.after? t = some s')
    (outer : List Mode) : (s.under outer).after? t = some (s'.under outer) := by
  obtain ⟨mode, modes⟩ := s
  cases t with
  | closing =>
      cases modes with
      | nil => exact nomatch h
      | cons mode' modes =>
          cases h
          rfl
  | set | dot | caret | dollar | anchor | opening | flags | bar | repetition =>
      cases h
      rfl

namespace Token

/-! ### Tokens of a text -/

/-- The tokens that a text begins with, where it is read in the scope `s`. What is left of it is
read in the scope `s'`. -/
inductive Reads : Scope → List Char → List Token → Scope → List Char → Prop where
  | nil {s : Scope} {cs : List Char} : Reads s cs [] s cs
  | cons {s s₁ s' : Scope} {cs mid rest : List Char} {t : Token} {ts : List Token}
      (first : read? s.mode cs = some (t, mid)) (scope : s.after? t = some s₁)
      (others : Reads s₁ mid ts s' rest) : Reads s cs (t :: ts) s' rest

variable {s s₁ s' : Scope} {cs mid rest : List Char} {t : Token} {ts us : List Token}

/-- Tokens are read in a row. -/
lemma Reads.append (h : Reads s cs ts s₁ mid) (h' : Reads s₁ mid us s' rest) :
    Reads s cs (ts ++ us) s' rest := by
  induction h with
  | nil => exact h'
  | cons first scope _ ih => exact .cons first scope (ih h')

/-- Groups around a text do not matter to its tokens. -/
lemma Reads.under (h : Reads s cs ts s' rest) (outer : List Mode) :
    Reads (s.under outer) cs ts (s'.under outer) rest := by
  induction h with
  | nil => exact .nil
  | cons first scope _ ih => exact .cons first (Scope.after?_under scope outer) ih

/-- **Nor does what follows, if it settles what is left.** -/
theorem Reads.extend (h : Reads s cs ts s' rest) {after : List Char}
    (hsettled : Settled s'.mode rest after) : Reads s (cs ++ after) ts s' (rest ++ after) := by
  induction h with
  | nil => exact .nil
  | cons first scope others ih =>
      refine .cons (read?_append first scope ?_) scope (ih hsettled)
      cases others with
      | nil => exact hsettled
      | cons next _ _ => exact .inl (skip_ne_nil_of_read? next)

/-- A closing parenthesis ends a group, if it is not left out. -/
lemma reads_closing {mode mode' : Mode} {outer : List Mode} (h : mode.skip cs = ')' :: rest) :
    Reads ⟨mode, mode' :: outer⟩ cs [.closing] ⟨mode', outer⟩ rest := by
  refine .cons (?_ : read? mode cs = some (.closing, rest)) rfl .nil
  rw [read?, h, readHere?]

lemma reads_of_readUpTo? {n : Nat} (h : readUpTo? n s cs = some ts) :
    ∃ s' rest, Reads s cs ts s' rest ∧ s'.mode.skip rest = [] := by
  induction n generalizing s cs ts with
  | zero =>
      rw [readUpTo?] at h
      split at h
      · next hend =>
          cases h
          exact ⟨s, cs, .nil, List.isEmpty_iff.1 hend⟩
      · exact nomatch h
  | succ n ih =>
      rw [readUpTo?] at h
      split at h
      · next hend =>
          cases h
          exact ⟨s, cs, .nil, List.isEmpty_iff.1 hend⟩
      · simp only [bind, pure, Option.bind_eq_some_iff] at h
        obtain ⟨⟨t, mid⟩, hfirst, s₁, hscope, us, hothers, he⟩ := h
        cases he
        obtain ⟨s', rest, hus, hend⟩ := ih hothers
        exact ⟨s', rest, .cons hfirst hscope hus, hend⟩

lemma readUpTo?_of_reads (h : Reads s cs ts s' rest) (hend : s'.mode.skip rest = []) {n : Nat}
    (hn : cs.length ≤ n) : readUpTo? n s cs = some ts := by
  induction h generalizing n with
  | nil =>
      cases n <;>
        · rw [readUpTo?, hend]
          rfl
  | cons first scope others ih =>
      have hlt := length_lt_of_read? first
      obtain ⟨n, rfl⟩ : ∃ n', n = n' + 1 := ⟨n - 1, by omega⟩
      rw [readUpTo?, if_neg (by simpa using skip_ne_nil_of_read? first), first]
      simp only [bind, pure, Option.bind_some, scope, ih hend (by omega : _ ≤ n)]

/-- **All tokens of a text** are those that are read until nothing is left. -/
theorem readAll?_eq_some_iff :
    readAll? cs = some ts ↔ ∃ s' rest, Reads {} cs ts s' rest ∧ s'.mode.skip rest = [] :=
  ⟨reads_of_readUpTo?, fun ⟨_, _, h, hend⟩ => readUpTo?_of_reads h hend (Nat.le_refl _)⟩

end Token

end HttpRouting
