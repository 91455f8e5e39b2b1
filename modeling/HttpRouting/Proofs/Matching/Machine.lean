/-
The machine finds the first way that is accepted.

* `Covers`: an attempt either deals with all of some calls, or accepts one of them;
* `Covers.eq_find?`: such an attempt finds the first call that is accepted;
* `firstEnd_covers`: trying the ends in turn deals with the calls of each end in turn;
* `calls`: what a program hands to what follows it, one call for each of its ways;
* `Follow.Tracks`: a record of calls that what follows keeps, and that a repeated call leaves
  intact;
* `Kept`: the invariant of the machine: every dead end stands for calls that were made;
* `run_covers`: the machine deals with all calls of its program, or accepts one of them;
* `run_eq_find?`: so it finds the first call that is accepted, where only the rest of the path
  decides;
* `captures?_eq_find?_ways`: the captures of the preferred way through a program that takes a path.

A dead end is noted under a number of steps and a number of characters. These stand for a rest of
the program and a rest of the path, because an optional part ends the program that holds it.
-/
import HttpRouting.Matching.Ways
import Mathlib.Tactic.Lemma

namespace HttpRouting.Program

/-! ### Attempts -/

section Covers

variable {β τ γ : Type} {P Q : List β → τ → Prop}

/-- An attempt deals with the calls `new` after the calls `past`: either none is accepted and `P`
holds of all of them, or one is and `Q` holds of those up to it. -/
def Covers (P Q : List β → τ → Prop) (past new : List β) : Bool × τ → Prop
  | (false, t) => P (past ++ new) t
  | (true, t) => ∃ before c rest, new = before ++ c :: rest ∧ Q (past ++ before ++ [c]) t

/-- An attempt that accepts a call accepts one of more calls. -/
lemma Covers.append_right {past new more : List β} {t : τ} (h : Covers P Q past new (true, t)) :
    Covers P Q past (new ++ more) (true, t) := by
  obtain ⟨before, c, rest, rfl, hq⟩ := h
  exact ⟨before, c, rest ++ more, by simp, hq⟩

/-- An attempt on more calls, after one that accepted none. -/
lemma Covers.append_left {past new more : List β} {r : Bool × τ}
    (h : Covers P Q (past ++ new) more r) : Covers P Q past (new ++ more) r := by
  obtain ⟨b, t⟩ := r
  cases b with
  | false =>
      have hp : P (past ++ new ++ more) t := h
      rwa [List.append_assoc] at hp
  | true =>
      obtain ⟨before, c, rest, rfl, hq⟩ := h
      exact ⟨new ++ before, c, rest, by simp, by simpa using hq⟩

/-- Where nothing is ever accepted, all calls are dealt with. -/
lemma Covers.of_never {past new : List β} {r : Bool × τ}
    (h : Covers P (fun _ _ => False) past new r) : P (past ++ new) r.2 := by
  obtain ⟨b, t⟩ := r
  cases b with
  | false => exact h
  | true => exact h.elim fun _ ⟨_, _, _, hf⟩ => hf.elim

lemma ends_zero : ends 0 = [0] := rfl

lemma ends_succ (n : Nat) : ends (n + 1) = (n + 1) :: ends n := by
  rw [ends, ends, List.range_succ (n := n + 1), List.reverse_append]
  rfl

/-- Trying the ends in turn deals with the calls of each end in turn. -/
lemma firstEnd_covers {attempt : Nat → τ → Bool × τ} {new : Nat → List β} {N : Nat}
    (h : ∀ n ≤ N, ∀ {past t}, P past t → Covers P Q past (new n) (attempt n t))
    {past : List β} {t : τ} (ht : P past t) :
    Covers P Q past ((ends N).flatMap new) (firstEnd attempt N t) := by
  induction N generalizing past t with
  | zero =>
      have h0 := h 0 (Nat.le_refl 0) ht
      simpa [ends_zero, firstEnd] using h0
  | succ N ih =>
      have hN := h (N + 1) (Nat.le_refl _) ht
      rw [ends_succ, List.flatMap_cons, firstEnd]
      rcases hr : attempt (N + 1) t with ⟨b, t'⟩
      rw [hr] at hN
      cases b with
      | true => exact hN.append_right
      | false => exact (ih (fun n hn => h n (by omega)) hN).append_left

/-- None of the calls is accepted, and nothing is kept. -/
def NoneKept (accepts : β → Bool) (kept : τ → Option γ) (past : List β) (t : τ) : Prop :=
  kept t = none ∧ ∀ c ∈ past, accepts c = false

/-- The last call and no other is accepted, and what it gives is kept. -/
def LastKept (accepts : β → Bool) (kept : τ → Option γ) (give : β → γ) (past : List β) (t : τ) :
    Prop :=
  ∃ before c, past = before ++ [c] ∧ (∀ b ∈ before, accepts b = false) ∧ accepts c = true ∧
    kept t = some (give c)

variable {accepts : β → Bool} {kept : τ → Option γ} {give : β → γ}

lemma noneKept_nil {t : τ} (h : kept t = none) : NoneKept accepts kept [] t :=
  ⟨h, fun _ hc => nomatch hc⟩

/-- One more call, where none was accepted before. -/
lemma NoneKept.covers_call {past : List β} {t : τ} (h : NoneKept accepts kept past t) {c : β}
    {r : Bool × τ} (haccepts : r.1 = accepts c)
    (hkept : kept r.2 = if accepts c then some (give c) else kept t) :
    Covers (NoneKept accepts kept) (LastKept accepts kept give) past [c] r := by
  obtain ⟨b, t'⟩ := r
  obtain ⟨ht, hpast⟩ := h
  cases b with
  | true =>
      rw [← haccepts, if_pos rfl] at hkept
      exact ⟨[], c, [], rfl, past, c, by simp, hpast, haccepts.symm, hkept⟩
  | false =>
      rw [← haccepts, if_neg Bool.false_ne_true, ht] at hkept
      refine ⟨hkept, fun c' hc' => ?_⟩
      rcases List.mem_append.1 hc' with hc' | hc'
      · exact hpast c' hc'
      · rw [List.mem_singleton.1 hc']
        exact haccepts.symm

/-- Calls that are dealt with in this way give the first one that is accepted. -/
lemma Covers.eq_find? {new : List β} {r : Bool × τ}
    (h : Covers (NoneKept accepts kept) (LastKept accepts kept give) [] new r) :
    r.1 = new.any accepts ∧ kept r.2 = (new.find? accepts).map give := by
  obtain ⟨b, t⟩ := r
  cases b with
  | false =>
      obtain ⟨ht, hnone⟩ : NoneKept accepts kept ([] ++ new) t := h
      rw [List.nil_append] at hnone
      have hany : new.any accepts = false := List.any_eq_false.2 fun c hc => by simp [hnone c hc]
      rw [List.find?_eq_none.2 fun c hc => by simp [hnone c hc]]
      exact ⟨hany.symm, ht⟩
  | true =>
      obtain ⟨before, c, rest, rfl, before', c', hlast, hbefore, hc, ht⟩ := h
      obtain ⟨rfl, he⟩ := List.append_inj' hlast rfl
      obtain rfl : c = c' := by simpa using he
      have hnone : before.find? accepts = none :=
        List.find?_eq_none.2 fun b hb => by simp [hbefore b (by simpa using hb)]
      refine ⟨by simp [hc], ?_⟩
      rw [List.find?_append, hnone, Option.none_or, List.find?_cons_of_pos hc]
      exact ht

end Covers

/-! ### Calls -/

/-- What is handed to what follows a program: the rest of the path and the captures, last
first. -/
abbrev Call := List Char × Captures

/-- The captures of a call in their order. -/
def Call.captures (c : Call) : Captures :=
  c.2.reverse

/-- The calls that a program makes, in the order of its ways. -/
def calls (p : Program) (rest : List Char) (bound : Captures) : List Call :=
  (p.ways rest).map fun w => (w.1, w.2.reverse ++ bound)

lemma calls_done (rest : List Char) (bound : Captures) : calls done rest bound = [(rest, bound)] :=
  rfl

lemma calls_literal (text : List Char) (next : Program) (rest : List Char) (bound : Captures) :
    calls (literal text next) rest bound =
      match stripPrefix? text rest with
      | some rest => calls next rest bound
      | none => [] := by
  rw [calls, ways]
  cases stripPrefix? text rest <;> rfl

lemma calls_capture (name : String) (type : AttributeType) (next : Program) (rest : List Char)
    (bound : Captures) :
    calls (capture name type next) rest bound =
      (ends rest.length).flatMap fun n =>
        if type.accepts (rest.take n) then
          calls next (rest.drop n) ((name, String.ofList (rest.take n)) :: bound)
        else [] := by
  rw [calls, ways, List.map_flatMap]
  congr 1
  funext n
  by_cases h : type.accepts (rest.take n)
  · simp [h, calls, List.map_map, Function.comp_def]
  · simp [h]

lemma calls_optional (inner : Program) (rest : List Char) (bound : Captures) :
    calls (optional inner) rest bound = calls inner rest bound ++ [(rest, bound)] := by
  simp [calls, ways]

/-! ### Records of calls -/

section Machine

variable {σ : Type} {path : List Char} {follow : Follow σ} {P Q : List Call → σ → Prop}

/-- What follows a program keeps a record `P` of the calls that it did not accept, and `Q` of
those up to one that it did. It need not be asked twice about the same rest of the path. -/
structure Follow.Tracks (path : List Char) (follow : Follow σ) (P Q : List Call → σ → Prop) :
    Prop where
  call : ∀ {past rest s}, P past s → rest <:+ path → ∀ bound,
    Covers P Q past [(rest, bound)] (follow rest bound s)
  skip : ∀ {past rest bound s}, P past s → (∃ b, (rest, b) ∈ past) → P (past ++ [(rest, bound)]) s

/-- Calls about rests that were asked about can be left out. -/
lemma Follow.Tracks.skipAll (h : Follow.Tracks path follow P Q) {past new : List Call} {s : σ}
    (hp : P past s) (hnew : ∀ c ∈ new, ∃ b, (c.1, b) ∈ past) : P (past ++ new) s := by
  induction new generalizing past with
  | nil => simpa using hp
  | cons c new ih =>
      obtain ⟨rest, bound⟩ := c
      have hc : P (past ++ [(rest, bound)]) s :=
        h.skip hp (hnew (rest, bound) List.mem_cons_self)
      have hall := ih hc fun c' hc' => by
        obtain ⟨b, hb⟩ := hnew c' (List.mem_cons_of_mem _ hc')
        exact ⟨b, List.mem_append_left _ hb⟩
      simpa using hall

/-! ### Dead ends -/

/-- What is left of a program after some steps. -/
def after : Program → Nat → Program
  | p, 0 => p
  | done, _ + 1 => done
  | literal _ next, n + 1 => next.after n
  | capture _ _ next, n + 1 => next.after n
  | optional inner, n + 1 => inner.after n

lemma after_zero (p : Program) : p.after 0 = p := by
  cases p <;> rfl

/-- All calls that a program makes on the rest of the path with `l` characters are about rests that
were asked about. -/
def Settled (path : List Char) (p : Program) (l : Nat) (past : List Call) : Prop :=
  ∀ text, text <:+ path → text.length = l → ∀ w ∈ p.ways text, ∃ b, (w.1, b) ∈ past

lemma Settled.append {p : Program} {l : Nat} {past : List Call} (h : Settled path p l past)
    (new : List Call) : Settled path p l (past ++ new) := fun text ht hl w hw => by
  obtain ⟨b, hb⟩ := h text ht hl w hw
  exact ⟨b, List.mem_append_left _ hb⟩

/-- Two rests of one path with the same length are equal. -/
lemma eq_of_suffix_of_length_eq {s t : List Char} (hs : s <:+ path) (ht : t <:+ path)
    (h : s.length = t.length) : s = t :=
  (List.suffix_of_suffix_length_le hs ht (Nat.le_of_eq h)).eq_of_length h

/-- The calls of a program settle the point from which they were made. -/
lemma settled_calls {p : Program} {rest : List Char} (hrest : rest <:+ path) (past : List Call)
    (bound : Captures) : Settled path p rest.length (past ++ calls p rest bound) := by
  intro text ht hl w hw
  rw [eq_of_suffix_of_length_eq ht hrest hl] at hw
  exact ⟨_, List.mem_append_right _ (List.mem_map.2 ⟨w, hw, rfl⟩)⟩

/-- The invariant of the machine at the program `p`, which begins after `k` steps: the record is
kept, the dead ends inside `p` are settled, and those before it are among the ones it was given. -/
structure Kept (path : List Char) (P : List Call → σ → Prop) (given : DeadEnds) (k : Nat)
    (p : Program) (past : List Call) (c : Carried σ) : Prop where
  record : P past c.2
  settled : ∀ point ∈ c.1, k ≤ point.1 → Settled path (p.after (point.1 - k)) point.2 past
  old : ∀ point ∈ c.1, point.1 < k → point ∈ given

variable {given : DeadEnds} {k : Nat} {p next : Program} {past : List Call} {c : Carried σ}

/-- The machine goes one step on. -/
lemma Kept.enter (h : Kept path P given k p past c) (hnext : ∀ n, p.after (n + 1) = next.after n) :
    Kept path P c.1 (k + 1) next past c where
  record := h.record
  settled := fun point hp hk => by
    have hs := h.settled point hp (by omega)
    rwa [show point.1 - k = point.1 - (k + 1) + 1 by omega, hnext] at hs
  old := fun _ hp _ => hp

/-- The machine comes back to the step before. -/
lemma Kept.leave {new : List Call} {c' : Carried σ} (h : Kept path P given k p past c)
    (hnext : ∀ n, p.after (n + 1) = next.after n)
    (h' : Kept path P c.1 (k + 1) next (past ++ new) c') :
    Kept path P given k p (past ++ new) c' where
  record := h'.record
  settled := fun point hp hk => by
    by_cases hlt : point.1 < k + 1
    · exact (h.settled point (h'.old point hp hlt) hk).append new
    · have hs := h'.settled point hp (by omega)
      rwa [← hnext, show point.1 - (k + 1) + 1 = point.1 - k by omega] at hs
  old := fun point hp hk => h.old point (h'.old point hp (by omega)) hk

/-- A point all of whose calls were made can be noted as a dead end. -/
lemma Kept.insert {l : Nat} (h : Kept path P given k p past c) (hs : Settled path p l past) :
    Kept path P given k p past (c.1.insert (k, l), c.2) where
  record := h.record
  settled := fun point hp hk => by
    rcases Std.HashSet.mem_insert.1 hp with he | hp
    · obtain rfl := LawfulBEq.eq_of_beq he
      rwa [Nat.sub_self, after_zero]
    · exact h.settled point hp hk
  old := fun point hp hk => by
    rcases Std.HashSet.mem_insert.1 hp with he | hp
    · obtain rfl := LawfulBEq.eq_of_beq he
      exact absurd hk (Nat.lt_irrefl k)
    · exact h.old point hp hk

/-- A failure is noted once all calls of the point were made. -/
lemma covers_note {q : List Call → Carried σ → Prop} {rest : List Char} {bound : Captures}
    (hrest : rest <:+ path) {r : Bool × Carried σ}
    (h : Covers (Kept path P given k p) q past (calls p rest bound) r) :
    Covers (Kept path P given k p) q past (calls p rest bound) (note (k, rest.length) r) := by
  obtain ⟨b, dead, s⟩ := r
  cases b with
  | true => exact h
  | false => exact Kept.insert h (settled_calls hrest past bound)

/-- A point that is a dead end makes no call about a new rest. -/
lemma Kept.dead_end (htr : Follow.Tracks path follow P Q) {rest : List Char} {bound : Captures}
    (hrest : rest <:+ path) (h : Kept path P given k p past c) (hk : (k, rest.length) ∈ c.1) :
    Kept path P given k p (past ++ calls p rest bound) c where
  record := htr.skipAll h.record fun call hc => by
    obtain ⟨w, hw, rfl⟩ := List.mem_map.1 hc
    have hs := h.settled _ hk (Nat.le_refl k)
    rw [Nat.sub_self, after_zero] at hs
    exact hs rest hrest rfl w hw
  settled := fun point hp hle => (h.settled point hp hle).append _
  old := h.old

/-- What is accepted does not depend on the dead ends. -/
lemma Covers.weaken {P' : List Call → Carried σ → Prop} {P'' : List Call → Carried σ → Prop}
    {q : List Call → Carried σ → Prop} {new : List Call} {r : Bool × Carried σ}
    (h : Covers P' q past new r) (himp : ∀ c, P' (past ++ new) c → P'' (past ++ new) c) :
    Covers P'' q past new r := by
  obtain ⟨b, c⟩ := r
  cases b with
  | true => exact h
  | false => exact himp c h

/-- Asking what follows is one call. It meets no dead end. -/
lemma covers_follow (htr : Follow.Tracks path follow P Q) {rest : List Char} {bound : Captures}
    (hrest : rest <:+ path) (h : Kept path P given k p past c) :
    Covers (Kept path P given k p) (fun past c => Q past c.2) past [(rest, bound)]
      ((follow rest bound c.2).1, (c.1, (follow rest bound c.2).2)) := by
  have hc := htr.call h.record hrest bound
  rcases hf : follow rest bound c.2 with ⟨b, s⟩
  rw [hf] at hc
  cases b with
  | true => exact hc
  | false => exact ⟨hc, fun point hp hle => (h.settled point hp hle).append _, h.old⟩

/-! ### Running -/

lemma suffix_of_stripPrefix? {text cs rest : List Char} (h : stripPrefix? text cs = some rest) :
    rest <:+ cs :=
  ⟨text, (stripPrefix?_eq_some_iff.1 h).symm⟩

/-- A program that begins with a literal that does not come next has no ways. -/
lemma calls_eq_nil_of_mayBegin {rest : List Char} (h : next.mayBegin rest = false)
    (bound : Captures) : calls next rest bound = [] := by
  cases next with
  | literal text next =>
      have hnone : stripPrefix? text rest = none := by simpa [mayBegin] using h
      rw [calls_literal, hnone]
  | done => exact nomatch h
  | capture _ _ _ => exact nomatch h
  | optional _ => exact nomatch h

/-- **The machine deals with all calls of its program**, in their order, or accepts one of them.
The induction is on the program. The dead ends inside the program that is run are settled at every
step, so a point that is left out makes no call about a new rest. -/
theorem run_covers (htr : Follow.Tracks path follow P Q) {rest : List Char}
    (hrest : rest <:+ path) (h : Kept path P given k p past c) (bound : Captures) :
    Covers (Kept path P given k p) (fun past c => Q past c.2) past (calls p rest bound)
      (p.run follow k rest bound c) := by
  induction p generalizing k rest bound given past c with
  | done => exact covers_follow htr hrest h
  | literal text next ih =>
      rw [run]
      split
      · next hd => exact h.dead_end htr hrest hd
      · refine covers_note hrest ?_
        rw [calls_literal]
        cases hs : stripPrefix? text rest with
        | none => simpa [Covers] using h
        | some rest' =>
            have hrest' := (suffix_of_stripPrefix? hs).trans hrest
            exact (ih hrest' (h.enter fun _ => rfl) bound).weaken fun _ => h.leave fun _ => rfl
  | capture name type next ih =>
      rw [run]
      split
      · next hd => exact h.dead_end htr hrest hd
      · refine covers_note hrest ?_
        rw [calls_capture]
        refine Covers.weaken (firstEnd_covers (P := Kept path P c.1 (k + 1) next) ?_
          (h.enter fun _ => rfl)) fun _ => h.leave fun _ => rfl
        rintro n - past' c' h'
        have hdrop := (List.drop_suffix n rest).trans hrest
        by_cases ha : type.accepts (rest.take n)
        · simp only [ha, Bool.and_true, if_true]
          split
          · exact ih hdrop h' _
          · next hcut =>
              -- the literal that follows does not come next, or the point is a dead end
              rw [Bool.and_eq_true, Bool.not_eq_true',
                Classical.not_and_iff_not_or_not] at hcut
              rcases hcut with hcut | hcut
              · rw [calls_eq_nil_of_mayBegin (by simpa using hcut)]
                simpa [Covers] using h'
              · exact h'.dead_end htr hdrop (by simpa using hcut)
        · simp only [ha, Bool.and_false]
          simpa [Covers] using h'
  | optional inner ih =>
      rw [run]
      split
      · next hd => exact h.dead_end htr hrest hd
      · refine covers_note hrest ?_
        rw [calls_optional]
        refine Covers.weaken ?_ fun _ => h.leave fun _ => rfl
        have hi := ih hrest (h.enter fun _ => rfl) bound
        rcases hr : inner.run follow (k + 1) rest bound c with ⟨b, c'⟩
        rw [hr] at hi
        cases b with
        | true => exact hi.append_right
        | false => exact (covers_follow htr hrest hi).append_left


end Machine

/-! ### The first call that is accepted -/

section First

variable {σ γ : Type} {path : List Char} {follow : Follow σ} {accepts : List Char → Bool}
  (kept : σ → Option γ) (give : Call → γ)

/-- What follows a program keeps a record of the first call that it accepts, if only the rest of
the path decides, and what is kept comes from the call that is accepted. -/
lemma tracks_of_accepts (haccepts : ∀ rest bound s, (follow rest bound s).1 = accepts rest)
    (hkept : ∀ rest bound s, kept (follow rest bound s).2 =
      if accepts rest then some (give (rest, bound)) else kept s) :
    Follow.Tracks path follow (NoneKept (accepts ·.1) kept) (LastKept (accepts ·.1) kept give) where
  call := fun {_ rest s} hpast _ bound =>
    hpast.covers_call (haccepts rest bound s) (hkept rest bound s)
  skip := by
    rintro past rest bound s ⟨hs, hpast⟩ ⟨b, hb⟩
    refine ⟨hs, fun c hc => ?_⟩
    rcases List.mem_append.1 hc with hc | hc
    · exact hpast c hc
    · rw [List.mem_singleton.1 hc]
      exact hpast (rest, b) hb

/-- **The machine finds the first call that is accepted**, where only the rest of the path
decides. -/
theorem run_eq_find? (haccepts : ∀ rest bound s, (follow rest bound s).1 = accepts rest)
    (hkept : ∀ rest bound s, kept (follow rest bound s).2 =
      if accepts rest then some (give (rest, bound)) else kept s)
    (p : Program) (path : List Char) (bound : Captures) {s : σ} (hs : kept s = none) :
    (p.run follow 0 path bound (∅, s)).1 = (calls p path bound).any (accepts ·.1) ∧
      kept (p.run follow 0 path bound (∅, s)).2.2 =
        ((calls p path bound).find? (accepts ·.1)).map give := by
  have hstart : Kept path (NoneKept (accepts ·.1) kept) ∅ 0 p [] (∅, s) :=
    ⟨noneKept_nil hs, by simp, by simp⟩
  have hrun := run_covers (tracks_of_accepts kept give haccepts hkept) List.suffix_rfl hstart bound
  have hrecord : Covers (NoneKept (accepts ·.1) (kept ·.2))
      (fun past c => LastKept (accepts ·.1) kept give past c.2) []
      (calls p path bound) (p.run follow 0 path bound (∅, s)) :=
    hrun.weaken fun _ hk => hk.record
  exact hrecord.eq_find?

end First

/-- **The machine finds the first way that takes a whole path.** -/
theorem captures?_eq_find?_ways (p : Program) (path : List Char) :
    p.captures? path = ((p.ways path).find? (·.1.isEmpty)).map (·.2) := by
  have haccepts : ∀ rest bound s, (acceptAtEnd rest bound s).1 = rest.isEmpty := by
    intro rest bound s
    cases rest <;> rfl
  have hkept : ∀ rest bound s, id (acceptAtEnd rest bound s).2 =
      if rest.isEmpty then some (Call.captures (rest, bound)) else id s := by
    intro rest bound s
    cases rest <;> rfl
  rw [captures?, ← id_eq (p.run acceptAtEnd 0 path [] (∅, none)).2.2,
    (run_eq_find? id Call.captures haccepts hkept p path [] rfl).2, calls, List.find?_map,
    Option.map_map]
  simp [Function.comp_def, Call.captures]

end HttpRouting.Program
