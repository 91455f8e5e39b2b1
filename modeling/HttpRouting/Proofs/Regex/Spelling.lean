/-
What phrases a text spells, wherever it stands.

* `Assembly.under`, `Assembly.run?_under`: groups around a text do not matter to it;
* `Spells`: a text that spells some phrases in a row;
* `Fills`: a text that spells a phrase when a group holds it alone;
* `fills_of_ofText?`: a text that is a phrase on its own, and one with a group around it, is the
  same phrase inside the group;
* `ReadAsGroup`, `Fills.readAsGroup`: a text that is one group, whatever stands around it;
* `Spells.append`, `Fills.group`, `Fills.optional`, `fills_bars`: texts in a row, a group, an
  optional group, and texts between bars;
* `Spells.eq_of_ofText?`: the phrase of a whole text;
* `Spells.anchored`: a text between anchors.

A question mark would make what stands before it lazy or optional. So a text that spells phrases
does not begin with one, and none follows it. Around the text blanks count as such, and all
characters are known. Inside it this may change.
-/
import HttpRouting.Matching.Notation
import HttpRouting.Proofs.Regex.Nesting
import HttpRouting.Proofs.Regex.Reading

namespace HttpRouting

/-! ### Groups around a text -/

namespace Assembly

/-- An assembly inside further groups. -/
def under (a : Assembly) (groups : List (GroupKind × Level)) : Assembly :=
  { a with groups := a.groups ++ groups }

/-- An assembly with several more items. -/
def pushAll (a : Assembly) (items : List Phrase) : Assembly :=
  { a with level := { a.level with items := items.reverse ++ a.level.items } }

variable {a a' : Assembly}

lemma step?_under {t : Token} (h : a.step? t = some a') (groups : List (GroupKind × Level)) :
    (a.under groups).step? t = some (a'.under groups) := by
  cases t with
  | repetition least most lazy =>
      obtain ⟨level, hl, he⟩ := Option.map_eq_some_iff.1 h
      cases he
      simp only [step?, under, hl, Option.map_some]
  | closing =>
      obtain ⟨level, inner⟩ := a
      cases inner with
      | nil => cases h
      | cons g inner =>
          cases h
          rfl
  | set | dot | caret | dollar | anchor | opening | flags | bar =>
      cases h
      rfl

/-- Groups around a text do not matter to it. -/
lemma run?_under {ts : List Token} (h : a.run? ts = some a') (groups : List (GroupKind × Level)) :
    (a.under groups).run? ts = some (a'.under groups) := by
  induction ts generalizing a with
  | nil =>
      cases h
      rfl
  | cons t ts ih =>
      obtain ⟨b, hb, h⟩ := Option.bind_eq_some_iff.1 h
      rw [run?, step?_under hb groups]
      exact ih h

lemma pushAll_append (a : Assembly) (items others : List Phrase) :
    a.pushAll (items ++ others) = (a.pushAll items).pushAll others := by
  simp [pushAll]

end Assembly

/-! ### Spelling -/

/-- The text does not begin with a question mark. -/
def Plain (cs : List Char) : Prop :=
  cs.head? ≠ some '?'

lemma plain_append {cs ds : List Char} (hc : Plain cs) (hd : Plain ds) : Plain (cs ++ ds) := by
  cases cs with
  | nil => exact hd
  | cons c cs => exact hc

/-- A text that spells some phrases in a row, where no switch is set. -/
structure Spells (cs : List Char) (items : List Phrase) : Prop where
  plain : Plain cs
  read : ∃ ts,
    (∀ {outer rest}, Plain rest → Token.Reads ⟨{}, outer⟩ (cs ++ rest) ts ⟨{}, outer⟩ rest) ∧
    ∀ a : Assembly, a.level.flags = {} → a.run? ts = some (a.pushAll items)

/-- A text that spells a phrase when a group holds it alone. After the group, the mode is as it was
before. -/
def Fills (cs : List Char) (p : Phrase) : Prop :=
  ∃ ts,
    (∀ mode outer rest, Token.Reads ⟨{}, mode :: outer⟩ (cs ++ ')' :: rest) (ts ++ [.closing])
      ⟨mode, outer⟩ rest) ∧
    Phrase.ofTokens? ts = some p

/-- A text that opens a group. -/
def Opens (cs : List Char) (kind : GroupKind) : Prop :=
  Plain cs ∧ ∀ rest, Token.read? {} (cs ++ rest) = some (.opening kind {}, rest)

variable {cs ds : List Char} {items others : List Phrase} {p : Phrase} {kind : GroupKind}

lemma spells_nil : Spells [] [] where
  plain := by simp [Plain]
  read := ⟨[], fun _ => .nil, fun _ _ => rfl⟩

/-- Texts in a row spell their phrases in a row. -/
lemma Spells.append (h : Spells cs items) (h' : Spells ds others) :
    Spells (cs ++ ds) (items ++ others) where
  plain := plain_append h.plain h'.plain
  read := by
    obtain ⟨ts, hread, hrun⟩ := h.read
    obtain ⟨us, hread', hrun'⟩ := h'.read
    refine ⟨ts ++ us, fun {outer rest} hp => ?_, fun a ha => ?_⟩
    · rw [List.append_assoc]
      exact (hread (plain_append h'.plain hp)).append (hread' hp)
    · rw [Assembly.run?_append, hrun a ha, Option.bind_some, hrun' (a.pushAll items) ha,
        Assembly.pushAll_append]

/-- A text of one token that adds one phrase. -/
lemma spells_of_read? {t : Token} (hcs : Plain cs)
    (hread : ∀ rest, Plain rest → Token.read? {} (cs ++ rest) = some (t, rest))
    (hscope : ∀ s : Scope, s.after? t = some s)
    (hstep : ∀ a : Assembly, a.level.flags = {} → a.step? t = some (a.push p)) :
    Spells cs [p] where
  plain := hcs
  read := by
    refine ⟨[t], fun hp => .cons (hread _ hp) (hscope _) .nil, fun a ha => ?_⟩
    rw [Assembly.run?, hstep a ha]
    rfl

/-! ### Literal text -/

/-- An escaped character spells the set that holds it alone. -/
lemma spells_escaped (c : Char) :
    Spells (if isSpecial c then ['\\', c] else [c]) [.set (.single c) 0] := by
  split
  · next hc =>
      refine spells_of_read? (t := .set (.single c) 0) (by simp [Plain]) (fun rest _ => ?_)
        (fun _ => rfl) fun a ha => by simp [Assembly.step?, Flags.setOf, ha]
      simp only [isSpecial, List.contains_eq_mem, List.mem_cons, List.not_mem_nil, or_false,
        decide_eq_true_eq] at hc
      rcases hc with rfl | rfl | rfl | rfl | rfl | rfl | rfl | rfl | rfl | rfl | rfl | rfl | rfl |
        rfl | rfl | rfl | rfl | rfl <;> rfl
  · next hc =>
      have hne : ∀ d, isSpecial d = true → c ≠ d := by
        rintro d hd rfl
        exact hc hd
      have hmark := hne '?' (by decide)
      refine spells_of_read? (t := .set (.single c) 0) (by simpa [Plain] using hmark)
        (fun rest _ => ?_) (fun _ => rfl) fun a ha => by simp [Assembly.step?, Flags.setOf, ha]
      exact Token.readHere?.eq_14 {} c rest (hne _ (by decide)) (hne _ (by decide))
        (hne _ (by decide)) (hne _ (by decide)) (hne _ (by decide)) (hne _ (by decide))
        (hne _ (by decide)) (hne _ (by decide)) (hne _ (by decide)) (hne _ (by decide))
        (hne _ (by decide)) (hne _ (by decide))

/-- A literal spells the sets of its characters. -/
lemma spells_escapeLiteral (text : List Char) :
    Spells (escapeLiteral text) (text.map fun c => .set (.single c) 0) := by
  induction text with
  | nil => exact spells_nil
  | cons c text ih =>
      rw [escapeLiteral, List.flatMap_cons]
      exact (spells_escaped c).append ih

/-! ### Groups -/

/-- Tokens that make a phrase also make one after other switches, and close the groups they open. -/
lemma exists_run?_of_ofTokens? {ts : List Token} (h : Phrase.ofTokens? ts = some p)
    (flags : Flags) :
    ∃ level, ({ level := { flags } } : Assembly).run? ts = some ⟨level, []⟩ := by
  obtain ⟨s, hs, -, houter⟩ := Token.nests_of_ofTokens? h
  have hsketch := ({ level := { flags } } : Assembly).map_sketch_run? ts
  rw [show ({ level := { flags } } : Assembly).sketch = {} from rfl, hs] at hsketch
  obtain ⟨⟨level, groups⟩, hrun, rfl⟩ := Option.map_eq_some_iff.1 hsketch
  obtain rfl := List.map_eq_nil_iff.1 houter
  exact ⟨level, hrun⟩

/-- A text that is read as one group, whatever stands around it, if blanks count there and all
characters are known. The group holds a given phrase where no switch is set. -/
def ReadAsGroup (cs : List Char) (kind : GroupKind) (p : Phrase) : Prop :=
  ∃ ts, (∀ outer rest, Token.Reads ⟨{}, outer⟩ (cs ++ rest) ts ⟨{}, outer⟩ rest) ∧
    ∀ a : Assembly, ∃ q, a.run? ts = some (a.push (.group kind q)) ∧ (a.level.flags = {} → q = p)

/-- What stands inside a group is read after the token that opens it. -/
lemma Opens.reads_group (hopens : Opens cs kind) {s : Scope} {outer : List Mode}
    {rest rest' : List Char} {ts : List Token}
    (h : Token.Reads ⟨{}, {} :: outer⟩ (ds ++ ')' :: rest) ts s rest') :
    Token.Reads ⟨{}, outer⟩ (cs ++ ds ++ [')'] ++ rest) (.opening kind {} :: ts) s rest' := by
  simp only [List.append_assoc, List.cons_append, List.nil_append]
  exact .cons (hopens.2 _) rfl h

/-- **A text that fills a group is read as one group with it**, whatever stands around the group. -/
theorem Fills.readAsGroup (h : Fills ds p) (hopens : Opens cs kind) :
    ReadAsGroup (cs ++ ds ++ [')']) kind p := by
  obtain ⟨ts, hread, htokens⟩ := h
  refine ⟨.opening kind {} :: (ts ++ [.closing]),
    fun outer rest => hopens.reads_group (hread {} outer rest), fun a => ?_⟩
  -- the groups inside are closed, and the one around them is the current one
  obtain ⟨level, hrun⟩ := exists_run?_of_ofTokens? htokens a.level.flags
  have hunder := Assembly.run?_under hrun ((kind, a.level) :: a.groups)
  refine ⟨level.phrase, ?_, fun ha => ?_⟩
  · have hopened : a.step? (.opening kind {}) = some
        (({ level := { flags := a.level.flags } } : Assembly).under
          ((kind, a.level) :: a.groups)) := rfl
    rw [Assembly.run?, hopened, Option.bind_some, Assembly.run?_append, hunder]
    rfl
  · rw [ha] at hrun
    rw [Phrase.ofTokens?, hrun] at htokens
    exact Option.some.inj htokens

lemma Opens.plain_append (hopens : Opens cs kind) (ds : List Char) : Plain (cs ++ ds) := by
  have hne : cs ≠ [] := by
    rintro rfl
    exact nomatch hopens.2 []
  obtain ⟨c, cs, rfl⟩ := List.exists_cons_of_ne_nil hne
  exact hopens.1

/-- A group spells one phrase. -/
lemma Fills.group (h : Fills ds p) (hopens : Opens cs kind) :
    Spells (cs ++ ds ++ [')']) [.group kind p] where
  plain := by
    rw [List.append_assoc]
    exact hopens.plain_append _
  read := by
    obtain ⟨ts, hread, hrun⟩ := h.readAsGroup hopens
    refine ⟨ts, fun {outer rest} _ => hread outer rest, fun a ha => ?_⟩
    obtain ⟨q, hq, he⟩ := hrun a
    rw [hq, he ha]
    rfl

lemma opens_plain : Opens "(?:".toList .plain :=
  ⟨by simp [Plain], fun _ => rfl⟩

/-- The phrases in a row that a text spells are all that its tokens make. -/
lemma Spells.exists_ofTokens? (h : Spells cs items) :
    ∃ ts, (∀ {outer rest}, Plain rest →
        Token.Reads ⟨{}, outer⟩ (cs ++ rest) ts ⟨{}, outer⟩ rest) ∧
      Phrase.ofTokens? ts = some (.concat items) := by
  obtain ⟨ts, hread, hrun⟩ := h.read
  refine ⟨ts, hread, ?_⟩
  rw [Phrase.ofTokens?, hrun {} rfl, Option.bind_some, Assembly.finish?]
  simp [Assembly.pushAll, Level.phrase, Level.current, Phrase.choice]

/-- They fill a group. -/
lemma Spells.fills (h : Spells cs items) : Fills cs (.concat items) := by
  obtain ⟨ts, hread, hp⟩ := h.exists_ofTokens?
  exact ⟨ts, fun _ _ _ => (hread (by simp [Plain])).append (Token.reads_closing rfl), hp⟩

/-- A question mark is read alone if no other one follows. -/
lemma Token.read?_optional {rest : List Char} (h : Plain rest) :
    read? {} ('?' :: rest) = some (.repetition 0 (some 1) false, rest) := by
  change withLaziness {} 0 (some 1) rest = _
  unfold withLaziness
  split
  · next hmark => exact absurd (congrArg List.head? hmark) h
  · rfl

/-- A group that may be left out spells a repetition. -/
lemma Fills.optional (h : Fills cs p) :
    Spells (optionalNotation cs) [.repetition (.group .plain p) 0 (some 1) false] where
  plain := by
    rw [optionalNotation, List.append_assoc]
    exact opens_plain.plain_append _
  read := by
    obtain ⟨ts, hread, hrun⟩ := h.readAsGroup opens_plain
    refine ⟨ts ++ [.repetition 0 (some 1) false], fun {outer rest} hp => ?_, fun a ha => ?_⟩
    · have hall := (hread outer ('?' :: rest)).append
        (.cons (Token.read?_optional hp) rfl .nil)
      simpa [optionalNotation] using hall
    · obtain ⟨q, hq, he⟩ := hrun a
      rw [Assembly.run?_append, hq, Option.bind_some, he ha]
      simp [Assembly.run?, Assembly.step?, Assembly.push, Level.push, Assembly.pushAll,
        Level.repeatLast?, Phrase.isRepeatable, ha]

/-! ### Patterns inside groups -/

/-- The groups around a place are as many as those that the tokens before it have left open. -/
lemma Token.Reads.length_outer {s s' : Scope} {ts : List Token} {rest : List Char}
    (h : Reads s cs ts s' rest) {k k' : Sketch} (hrun : k.run? ts = some k')
    (hlen : s.outer.length = k.outer.length) : s'.outer.length = k'.outer.length := by
  induction h generalizing k with
  | nil =>
      cases hrun
      exact hlen
  | @cons s s₁ s' cs mid rest t ts first scope others ih =>
      obtain ⟨k₁, hstep, hrun⟩ := Option.bind_eq_some_iff.1 hrun
      refine ih hrun ?_
      obtain ⟨mode, modes⟩ := s
      obtain ⟨top, last, outer⟩ := k
      cases t with
      | closing =>
          cases modes with
          | nil => exact nomatch scope
          | cons mode' modes =>
              cases outer with
              | nil => exact nomatch hstep
              | cons top' outer =>
                  cases scope
                  cases hstep
                  exact Nat.succ.inj hlen
      | opening =>
          cases scope
          cases hstep
          exact congrArg (· + 1) hlen
      | repetition =>
          cases scope
          obtain ⟨n, -, he⟩ := Option.map_eq_some_iff.1 hstep
          cases he
          exact hlen
      | set | dot | caret | dollar | anchor | flags | bar =>
          cases scope
          cases hstep
          exact hlen

/-- A group that is open at the end makes no phrase. -/
lemma Phrase.ofTokens?_opening {ts : List Token} (h : ofTokens? ts = some p) (kind : GroupKind)
    (change : FlagChange) : ofTokens? (.opening kind change :: ts) = none := by
  cases hopened : ofTokens? (.opening kind change :: ts) with
  | none => rfl
  | some q =>
      obtain ⟨s, hs, -, houter⟩ := Token.nests_of_ofTokens? hopened
      obtain ⟨s', hs', -, houter'⟩ := (Token.nests_of_ofTokens? h).exists_run? ⟨0, none, [0]⟩
      have hsame : s' = s := Option.some.inj (hs'.symm.trans hs)
      rw [hsame, houter] at houter'
      exact nomatch houter'

/-- **A text that is a phrase on its own, and one with a group around it, is the same phrase inside
the group.** Alone it may end inside a comment, but then a group around it would not be closed. -/
theorem fills_of_ofText? (h : Phrase.ofText? cs = some p)
    (hgroup : (Phrase.ofText? ("(?:".toList ++ cs ++ [')'])).isSome = true) : Fills cs p := by
  obtain ⟨h, -⟩ := Option.filter_eq_some_iff.1 h
  obtain ⟨ts, hts, hp⟩ := Option.bind_eq_some_iff.1 h
  obtain ⟨s, rest, hreads, hend⟩ := Token.readAll?_eq_some_iff.1 hts
  obtain ⟨k, hk, -, hclosed⟩ := Token.nests_of_ofTokens? hp
  have houter : s.outer = [] := by
    have hlen := hreads.length_outer hk rfl
    rwa [hclosed, List.length_nil, List.length_eq_zero_iff] at hlen
  obtain ⟨mode, modes⟩ := s
  obtain rfl : modes = [] := houter
  have hclosing : mode.skip (rest ++ [')']) = [')'] := by
    rcases Mode.skip_append_of_nil hend with hafter | hafter
    · rw [hafter, mode.skip_closing]
    · -- the text ends inside a comment, which takes the parenthesis
      have hinside : Token.Reads ⟨{}, [{}]⟩ (cs ++ ')' :: []) ts _ _ :=
        (hreads.under [{}]).extend (settled_closing mode rest)
      have hprobe := opens_plain.reads_group hinside
      rw [List.append_nil] at hprobe
      have hall := Token.readAll?_eq_some_iff.2 ⟨_, _, hprobe, hafter [')']⟩
      rw [Phrase.ofText?, hall, Option.bind_some, Phrase.ofTokens?_opening hp] at hgroup
      exact nomatch hgroup
  refine ⟨ts, fun mode' outer after => ?_, hp⟩
  have hclosing' : mode.skip (rest ++ ')' :: after) = ')' :: after := by
    have hmore := Mode.skip_append hclosing after
    rwa [List.append_assoc] at hmore
  have hsettled : Settled mode rest (')' :: after) := by
    refine .inr fun c hc => ?_
    rw [hclosing'] at hc
    exact (Option.some.inj hc).symm
  exact ((hreads.under (mode' :: outer)).extend hsettled).append (Token.reads_closing hclosing')

/-! ### Alternatives -/

lemma bars_cons_cons (cs ds : List Char) (texts : List (List Char)) :
    bars (cs :: ds :: texts) = cs ++ '|' :: bars (ds :: texts) := by
  simp [bars, List.intercalate]

lemma bars_singleton (cs : List Char) : bars [cs] = cs := by
  simp [bars, List.intercalate]

/-- A bar is a token. -/
lemma Token.reads_bar {s : Scope} (hs : s.mode = {}) (cs : List Char) :
    Reads s ('|' :: cs) [.bar] s cs := by
  refine .cons (?_ : read? s.mode ('|' :: cs) = some (.bar, cs)) rfl .nil
  rw [hs]
  rfl

/-- Texts between bars fill a group, with a branch for each. -/
lemma fills_bars {ι : Type} {text : ι → List Char} {items : ι → List Phrase} {is : List ι}
    (hne : is ≠ []) (h : ∀ i ∈ is, Spells (text i) (items i)) :
    Fills (bars (is.map text)) (.choice (is.map fun i => .concat (items i))) := by
  obtain ⟨i, is, rfl⟩ := List.exists_cons_of_ne_nil hne
  -- the branches that were read before come first
  suffices hbranches : ∃ ts, (∀ mode outer rest,
        Token.Reads ⟨{}, mode :: outer⟩ (bars ((i :: is).map text) ++ ')' :: rest)
          (ts ++ [.closing]) ⟨mode, outer⟩ rest) ∧
      ∀ branches, ∃ a, ({ level := { branches } } : Assembly).run? ts = some a ∧ a.groups = [] ∧
        a.level.phrase =
          .choice (branches.reverse ++ (i :: is).map fun i => .concat (items i)) by
    obtain ⟨ts, hread, hrun⟩ := hbranches
    obtain ⟨a, ha, hgroups, hphrase⟩ := hrun []
    refine ⟨ts, hread, ?_⟩
    rw [Phrase.ofTokens?, ha, Option.bind_some, Assembly.finish?, hgroups, hphrase]
    rfl
  induction is generalizing i with
  | nil =>
      obtain ⟨ts, hread, hrun⟩ := (h i List.mem_cons_self).read
      refine ⟨ts, fun mode outer rest => ?_, fun branches => ⟨_, hrun _ rfl, rfl, ?_⟩⟩
      · rw [List.map_singleton, bars_singleton]
        exact (hread (by simp [Plain])).append (Token.reads_closing rfl)
      · simp [Assembly.pushAll, Level.phrase, Level.current]
  | cons j is ih =>
      obtain ⟨ts, hread, hrun⟩ := (h i List.mem_cons_self).read
      obtain ⟨us, hread', hrun'⟩ := ih j (by simp) fun j hj => h j (List.mem_cons_of_mem _ hj)
      refine ⟨ts ++ .bar :: us, fun mode outer rest => ?_, fun branches => ?_⟩
      · have hbar := (hread (by simp [Plain])).append
          ((Token.reads_bar rfl _).append (hread' mode outer rest))
        simpa [bars_cons_cons, List.append_assoc] using hbar
      · obtain ⟨a, ha, hgroups, hphrase⟩ := hrun' (.concat (items i) :: branches)
        refine ⟨a, ?_, hgroups, ?_⟩
        · rw [Assembly.run?_append, hrun _ rfl, Option.bind_some, Assembly.run?]
          simpa [Assembly.step?, Assembly.pushAll, Level.fork, Level.current] using ha
        · rw [hphrase]
          simp

/-! ### Whole texts -/

/-- A text that spells phrases in a row is no other phrase. -/
lemma Spells.eq_of_ofText? (h : Spells cs items) (hp : Phrase.ofText? cs = some p) :
    p = .concat items := by
  obtain ⟨hp, -⟩ := Option.filter_eq_some_iff.1 hp
  obtain ⟨us, hus, hp⟩ := Option.bind_eq_some_iff.1 hp
  obtain ⟨ts, hread, hitems⟩ := h.exists_ofTokens?
  have htokens : Token.Reads {} (cs ++ []) ts {} [] := hread (by simp [Plain])
  rw [List.append_nil] at htokens
  have hts := Token.readAll?_eq_some_iff.2 ⟨_, _, htokens, rfl⟩
  obtain rfl := Option.some.inj (hts.symm.trans hus)
  exact Option.some.inj (hp.symm.trans hitems)

lemma spells_caret : Spells ['^'] [.anchor .start] :=
  spells_of_read? (by simp [Plain]) (fun _ _ => rfl) (fun _ => rfl) fun a ha => by
    rw [Assembly.step?, ha]
    rfl

lemma spells_dollar : Spells ['$'] [.anchor .stop] :=
  spells_of_read? (by simp [Plain]) (fun _ _ => rfl) (fun _ => rfl) fun a ha => by
    rw [Assembly.step?, ha]
    rfl

/-- Anchors around a text. -/
lemma Spells.anchored (h : Spells cs items) :
    Spells (anchored cs) ([.anchor .start] ++ items ++ [.anchor .stop]) :=
  (spells_caret.append h).append spells_dollar

end HttpRouting
