/-
The machine in place is plain backtracking.

* `spansOf`, `callsAt`: the slices of a way, and what a program hands on at positions of a text;
* `Agrees`: an attempt in place does as one on texts, and leaves no slice behind when it fails;
* `runInPlace_agrees`: so does the machine in place, whatever follows;
* `run_eq_runInPlace`: read as texts, it is the machine of `Program.run`;
* `search_covers`: plain backtracking deals with all calls of a program, or accepts one of them;
* `runInPlace_eq_search`: the machine in place accepts what plain backtracking accepts, at the same
  position and with the same slices.

That dead ends cut off nothing is known of `Program.run`. The slices follow from the texts, as a way
through a program fixes where each of its captures begins.
-/
import HttpRouting.AttributeType.Builder
import HttpRouting.Matching.InPlace
import HttpRouting.Proofs.Matching.Machine
import Mathlib.Data.List.Basic

namespace HttpRouting.Program

variable {σ : Type} {text : List Char} {pos : Nat}

/-! ### The slices of a way -/

/-- The slices that the captures of a way take from a position on, in their order. -/
def spansOf : Program → Nat → Captures → Spans
  | done, _, _ => []
  | literal piece next, pos, c => next.spansOf (pos + piece.length) c
  | capture _ _ _, _, [] => []
  | capture name _ next, pos, (_, value) :: c =>
    (name, pos, pos + value.length) :: next.spansOf (pos + value.length) c
  | optional inner, pos, c => inner.spansOf pos c

lemma spansOf_nil (p : Program) (pos : Nat) : p.spansOf pos [] = [] := by
  induction p generalizing pos with
  | done => rfl
  | literal piece next ih => exact ih (pos + piece.length)
  | capture name type next ih => rfl
  | optional inner ih => exact ih pos

/-- What a way leaves is the rest of the text. -/
lemma suffix_of_mem_ways {p : Program} {cs rest : List Char} {captures : Captures}
    (h : (rest, captures) ∈ p.ways cs) : rest <:+ cs := by
  induction p generalizing cs captures with
  | done =>
      cases List.mem_singleton.1 h
      exact List.suffix_rfl
  | literal piece next ih =>
      obtain ⟨after, rfl, hafter⟩ := mem_ways_literal.1 h
      exact (ih hafter).trans (List.suffix_append piece after)
  | capture name type next ih =>
      obtain ⟨value, after, others, rfl, -, -, hafter⟩ := mem_ways_capture.1 h
      exact (ih hafter).trans (List.suffix_append value after)
  | optional inner ih =>
      rcases mem_ways_optional.1 h with hinner | ⟨rfl, -⟩
      · exact ih hinner
      · exact List.suffix_rfl

/-- What follows a literal that comes next. -/
lemma drop_of_stripPrefix? {piece rest : List Char}
    (h : stripPrefix? piece (text.drop pos) = some rest) :
    rest = text.drop (pos + piece.length) ∧
      (pos ≤ text.length → pos + piece.length ≤ text.length) := by
  have hcs := stripPrefix?_eq_some_iff.1 h
  have hlength := congrArg List.length hcs
  rw [List.length_append, List.length_drop] at hlength
  refine ⟨?_, fun hpos => by omega⟩
  rw [← List.drop_drop, hcs, List.drop_left]

/-- A slice within the text is as long as it is said to be. -/
lemma length_take_drop {n : Nat} (h : n ≤ text.length - pos) :
    ((text.drop pos).take n).length = n := by
  rw [List.length_take, List.length_drop]
  exact Nat.min_eq_left h

/-! ### In place and by value -/

/-- An attempt in place has the result of one by value. If nothing is accepted, the slices on the
stack are those it began with. -/
inductive Agrees (spans : Spans) : Bool × Carried σ → Bool × Carried (Spans × σ) → Prop where
  | accepted (dead : DeadEnds) (spans' : Spans) (s : σ) :
    Agrees spans (true, (dead, s)) (true, (dead, spans', s))
  | failed (dead : DeadEnds) (s : σ) : Agrees spans (false, (dead, s)) (false, (dead, spans, s))

section Agrees

variable {spans : Spans} {r : Bool × Carried σ} {r' : Bool × Carried (Spans × σ)}

/-- By value, the result is that of the attempt in place without the stack. -/
lemma Agrees.eq (h : Agrees spans r r') : r = (r'.1, (r'.2.1, r'.2.2.2)) := by
  cases h <;> rfl

lemma Agrees.restored (h : Agrees spans r r') (hfail : r'.1 = false) : r'.2.2.1 = spans := by
  cases h with
  | accepted dead spans' s => exact nomatch hfail
  | failed dead s => rfl

/-- What follows is asked alike. -/
lemma agrees_ask {followAt : FollowAt σ} {result : Bool × σ} {s : σ}
    (h : result = followAt pos spans s) (dead : DeadEnds) :
    Agrees spans (result.1, (dead, result.2)) (ask followAt pos (dead, spans, s)) := by
  rw [ask, ← h]
  obtain ⟨b, s'⟩ := result
  cases b with
  | true => exact .accepted dead spans s'
  | false => exact .failed dead s'

lemma Agrees.note (h : Agrees spans r r') (point : Nat × Nat) :
    Agrees spans (note point r) (note point r') := by
  cases h with
  | accepted dead spans' s => exact .accepted dead spans' s
  | failed dead s => exact .failed (dead.insert point) s

/-- Trying the ends in turn agrees if each attempt does. -/
lemma firstEnd_agrees {attempt : Nat → Carried σ → Bool × Carried σ}
    {attempt' : Nat → Carried (Spans × σ) → Bool × Carried (Spans × σ)} {N : Nat}
    (h : ∀ n ≤ N, ∀ dead s, Agrees spans (attempt n (dead, s)) (attempt' n (dead, spans, s)))
    (dead : DeadEnds) (s : σ) :
    Agrees spans (firstEnd attempt N (dead, s)) (firstEnd attempt' N (dead, spans, s)) := by
  induction N generalizing dead s with
  | zero => exact h 0 (Nat.le_refl 0) dead s
  | succ N ih =>
      have hN := h (N + 1) (Nat.le_refl _) dead s
      rw [firstEnd, firstEnd]
      generalize attempt (N + 1) (dead, s) = r at hN ⊢
      generalize attempt' (N + 1) (dead, spans, s) = r' at hN ⊢
      cases hN with
      | accepted dead' spans' s' => exact .accepted dead' spans' s'
      | failed dead' s' => exact ih (fun n hn => h n (by omega)) dead' s'

/-- A slice is on the stack only for as long as it may be accepted. -/
lemma Agrees.withSpan {span : String × Nat × Nat}
    {attempt : Carried (Spans × σ) → Bool × Carried (Spans × σ)} {dead : DeadEnds} {s : σ}
    (h : Agrees (span :: spans) r (attempt (dead, span :: spans, s))) :
    Agrees spans r (withSpan span attempt (dead, spans, s)) := by
  rw [Program.withSpan]
  generalize attempt (dead, span :: spans, s) = r' at h ⊢
  cases h with
  | accepted dead' spans' s' => exact .accepted dead' spans' s'
  | failed dead' s' => exact .failed dead' s'

end Agrees

/-- **The machine in place does as the machine by value**, if what follows them answers alike for
every way through the program. The induction is on the program. -/
theorem runInPlace_agrees {follow : Follow σ} {followAt : FollowAt σ} {p : Program}
    (hpos : pos ≤ text.length) {bound : Captures} {spans : Spans}
    (h : ∀ w ∈ p.ways (text.drop pos), ∀ s, follow w.1 (w.2.reverse ++ bound) s =
      followAt (text.length - w.1.length) ((p.spansOf pos w.2).reverse ++ spans) s)
    (steps : Nat) (dead : DeadEnds) (s : σ) :
    Agrees spans (p.run follow steps (text.drop pos) bound (dead, s))
      (p.runInPlace text followAt steps pos (dead, spans, s)) := by
  induction p generalizing steps pos bound spans dead s with
  | done =>
      have hcall := h (text.drop pos, []) (List.mem_singleton_self _) s
      rw [List.length_drop, Nat.sub_sub_self hpos] at hcall
      exact agrees_ask hcall dead
  | literal piece next ih =>
      rw [run, runInPlace, List.length_drop]
      split
      · exact .failed dead s
      · refine Agrees.note ?_ _
        cases hs : stripPrefix? piece (text.drop pos) with
        | none => exact .failed dead s
        | some rest =>
            obtain ⟨rfl, hle⟩ := drop_of_stripPrefix? hs
            refine ih (hle hpos) (fun w hw s => h w ?_ s) _ _ _
            rwa [ways, hs]
  | capture name type next ih =>
      rw [run, runInPlace, List.length_drop]
      split
      · exact .failed dead s
      · refine Agrees.note (firstEnd_agrees (fun n hn dead s => ?_) dead s) _
        simp only [List.drop_drop, List.length_drop]
        split
        · next hcond =>
            refine Agrees.withSpan (ih (by omega) (fun w hw s => ?_) _ _ _)
            -- a way through what follows, after the slice, is a way through the program
            have haccepts := (Bool.and_eq_true_iff.1 hcond).2
            have hsplit : text.drop pos = (text.drop pos).take n ++ text.drop (pos + n) := by
              rw [← List.drop_drop, List.take_append_drop]
            have hway := h (w.1, (name, String.ofList ((text.drop pos).take n)) :: w.2)
              (mem_ways_capture.2 ⟨_, _, w.2, hsplit, haccepts, rfl, hw⟩) s
            rw [spansOf, String.length_ofList, length_take_drop hn] at hway
            simpa using hway
        · exact .failed dead s
  | optional inner ih =>
      rw [run, runInPlace, List.length_drop]
      split
      · exact .failed dead s
      · refine Agrees.note ?_ _
        have hinner := ih hpos (fun w hw s => h w (List.mem_append_left _ hw) s) (steps + 1) dead s
        generalize inner.run follow (steps + 1) (text.drop pos) bound (dead, s) = r at hinner ⊢
        generalize inner.runInPlace text followAt (steps + 1) pos (dead, spans, s) = r' at hinner ⊢
        cases hinner with
        | accepted dead' spans' s' => exact .accepted dead' spans' s'
        | failed dead' s' =>
            have hcall := h (text.drop pos, [])
              (List.mem_append_right _ (List.mem_singleton_self _)) s'
            rw [spansOf, spansOf_nil, List.length_drop, Nat.sub_sub_self hpos] at hcall
            exact agrees_ask hcall dead'

/-! ### Reading the slices -/

lemma read_append (spans others : Spans) :
    (spans ++ others : Spans).read text = spans.read text ++ others.read text :=
  List.map_append

lemma read_reverse (spans : Spans) : Spans.read text spans.reverse = (spans.read text).reverse :=
  List.map_reverse

/-- The slices of a way read as its captures. -/
lemma read_spansOf {p : Program} {rest : List Char} {captures : Captures}
    (h : (rest, captures) ∈ p.ways (text.drop pos)) :
    (p.spansOf pos captures).read text = captures := by
  induction p generalizing pos captures with
  | done =>
      cases List.mem_singleton.1 h
      rfl
  | literal piece next ih =>
      obtain ⟨after, hcs, hafter⟩ := mem_ways_literal.1 h
      obtain ⟨rfl, -⟩ := drop_of_stripPrefix? (stripPrefix?_eq_some_iff.2 hcs)
      exact ih hafter
  | capture name type next ih =>
      obtain ⟨value, after, others, hcs, -, rfl, hafter⟩ := mem_ways_capture.1 h
      have hdrop : text.drop (pos + value.length) = after := by
        rw [← List.drop_drop, hcs, List.drop_left]
      have hvalue : (text.drop pos).take (pos + value.length - pos) = value := by
        rw [Nat.add_sub_cancel_left, hcs, List.take_left]
      rw [spansOf, String.length_ofList, Spans.read, List.map_cons, ← Spans.read,
        ih (hdrop ▸ hafter)]
      exact congrArg (fun cs => (name, String.ofList cs) :: others) hvalue
  | optional inner ih =>
      rcases mem_ways_optional.1 h with hinner | ⟨-, rfl⟩
      · exact ih hinner
      · rw [spansOf_nil]
        rfl

/-- **Read as texts, the machine in place is the machine by value.** -/
theorem run_eq_runInPlace (follow : Follow σ) (p : Program) (hpos : pos ≤ text.length)
    (spans : Spans) (steps : Nat) (dead : DeadEnds) (s : σ) :
    p.run follow steps (text.drop pos) (spans.read text) (dead, s) =
      let r := p.runInPlace text (follow.at text) steps pos (dead, spans, s)
      (r.1, (r.2.1, r.2.2.2)) := by
  refine (runInPlace_agrees hpos (fun w hw s => ?_) steps dead s).eq
  obtain ⟨before, hbefore⟩ := (suffix_of_mem_ways hw).trans (List.drop_suffix pos text)
  have hdrop : text.drop (text.length - w.1.length) = w.1 := by
    rw [← hbefore, List.length_append, Nat.add_sub_cancel, List.drop_left]
  rw [Follow.at, hdrop, read_append, read_reverse, read_spansOf hw]

/-! ### Plain backtracking -/

/-- What a program hands on at the end of its ways, in their order. -/
def callsAt (text : List Char) (p : Program) (pos : Nat) (spans : Spans) : List (Nat × Spans) :=
  (p.ways (text.drop pos)).map fun w =>
    (text.length - w.1.length, (p.spansOf pos w.2).reverse ++ spans)

lemma callsAt_done (hpos : pos ≤ text.length) (spans : Spans) :
    callsAt text done pos spans = [(pos, spans)] := by
  simp [callsAt, ways, spansOf, Nat.sub_sub_self hpos]

lemma callsAt_literal (piece : List Char) (next : Program) (spans : Spans) :
    callsAt text (literal piece next) pos spans =
      match stripPrefix? piece (text.drop pos) with
      | some _ => callsAt text next (pos + piece.length) spans
      | none => [] := by
  rw [callsAt, ways]
  cases hs : stripPrefix? piece (text.drop pos) with
  | none => rfl
  | some rest =>
      obtain ⟨rfl, -⟩ := drop_of_stripPrefix? hs
      rfl

lemma callsAt_capture (name : String) (type : AttributeType) (next : Program) (spans : Spans) :
    callsAt text (capture name type next) pos spans =
      (ends (text.length - pos)).flatMap fun n =>
        if type.accepts ((text.drop pos).take n) then
          callsAt text next (pos + n) ((name, pos, pos + n) :: spans)
        else [] := by
  rw [callsAt, ways, List.map_flatMap, List.length_drop]
  refine List.flatMap_congr fun n hn => ?_
  have hlength := length_take_drop (mem_ends.1 hn)
  split
  · simp [callsAt, spansOf, hlength, List.map_map, Function.comp_def]
  · rfl

lemma callsAt_optional (hpos : pos ≤ text.length) (inner : Program) (spans : Spans) :
    callsAt text (optional inner) pos spans = callsAt text inner pos spans ++ [(pos, spans)] := by
  simp [callsAt, ways, spansOf, spansOf_nil, Nat.sub_sub_self hpos]

/-- **Plain backtracking deals with all calls of its program**, in their order, or accepts one of
them. -/
theorem search_covers {follow : FollowAt σ} {P Q : List (Nat × Spans) → σ → Prop}
    (hfollow : ∀ {past s}, P past s → ∀ pos spans,
      Covers P Q past [(pos, spans)] (follow pos spans s))
    (p : Program) (hpos : pos ≤ text.length) (spans : Spans) {past : List (Nat × Spans)} {s : σ}
    (h : P past s) :
    Covers P Q past (callsAt text p pos spans) (p.search text follow pos spans s) := by
  induction p generalizing pos spans past s with
  | done =>
      rw [callsAt_done hpos]
      exact hfollow h pos spans
  | literal piece next ih =>
      rw [callsAt_literal, search]
      cases hs : stripPrefix? piece (text.drop pos) with
      | none => simpa [Covers] using h
      | some rest => exact ih ((drop_of_stripPrefix? hs).2 hpos) spans h
  | capture name type next ih =>
      rw [callsAt_capture, search]
      refine firstEnd_covers (fun n hn past s hp => ?_) h
      split
      · exact ih (by omega) _ hp
      · simpa [Covers] using hp
  | optional inner ih =>
      rw [callsAt_optional hpos, search]
      have hinner := ih hpos spans h
      rcases hr : inner.search text follow pos spans s with ⟨b, s'⟩
      rw [hr] at hinner
      cases b with
      | true => exact hinner.append_right
      | false => exact (hfollow hinner pos spans).append_left

/-! ### The same answer -/

section Keeping

variable {follow : FollowAt σ} {accepts : Nat → Bool}

lemma keeping_accepts (h : ∀ pos spans s, (follow pos spans s).1 = accepts pos) (pos : Nat)
    (spans : Spans) (s : σ × Option (Nat × Spans)) :
    (follow.keeping pos spans s).1 = accepts pos := by
  rw [← h pos spans s.1, FollowAt.keeping]
  rcases follow pos spans s.1 with ⟨_ | _, s'⟩ <;> rfl

lemma keeping_kept (h : ∀ pos spans s, (follow pos spans s).1 = accepts pos) (pos : Nat)
    (spans : Spans) (s : σ × Option (Nat × Spans)) :
    (follow.keeping pos spans s).2.2 = if accepts pos then some (pos, spans) else s.2 := by
  rw [← h pos spans s.1, FollowAt.keeping]
  rcases follow pos spans s.1 with ⟨_ | _, s'⟩ <;> rfl

/-- Plain backtracking finds the first call that is accepted. -/
lemma search_eq_find? (h : ∀ pos spans s, (follow pos spans s).1 = accepts pos) (p : Program)
    (hpos : pos ≤ text.length) (spans : Spans) (s : σ) :
    let r := p.search text follow.keeping pos spans (s, none)
    r.1 = (callsAt text p pos spans).any (accepts ·.1) ∧
      r.2.2 = (callsAt text p pos spans).find? (accepts ·.1) := by
  let accepted : Nat × Spans → Bool := fun c => accepts c.1
  have hfollow : ∀ {past s}, NoneKept accepted Prod.snd past s → ∀ pos spans,
      Covers (NoneKept accepted Prod.snd) (LastKept accepted Prod.snd id) past [(pos, spans)]
        (follow.keeping pos spans s) :=
    fun hp pos spans =>
      hp.covers_call (keeping_accepts h pos spans _) (keeping_kept h pos spans _)
  simpa using (search_covers hfollow p hpos spans (s := (s, none)) (noneKept_nil rfl)).eq_find?

/-- So does the machine in place, which takes its slices off the stack again if there is none. -/
lemma runInPlace_eq_find? (h : ∀ pos spans s, (follow pos spans s).1 = accepts pos) (p : Program)
    (hpos : pos ≤ text.length) (spans : Spans) (s : σ) :
    let r := p.runInPlace text follow.keeping 0 pos (∅, spans, s, none)
    r.1 = (callsAt text p pos spans).any (accepts ·.1) ∧
      r.2.2.2.2 = (callsAt text p pos spans).find? (accepts ·.1) ∧
      (r.1 = false → r.2.2.1 = spans) := by
  -- by value, what follows finds the slices from the captures
  let place : Call → Nat × Spans := fun c =>
    (text.length - c.1.length, (p.spansOf pos c.captures).reverse ++ spans)
  let byValue : Follow (σ × Option (Nat × Spans)) := fun rest bound s =>
    follow.keeping (place (rest, bound)).1 (place (rest, bound)).2 s
  have hagrees : Agrees spans (p.run byValue 0 (text.drop pos) [] (∅, s, none))
      (p.runInPlace text follow.keeping 0 pos (∅, spans, s, none)) := by
    refine runInPlace_agrees hpos (fun w hw s => ?_) 0 ∅ (s, none)
    simp [byValue, place, Call.captures]
  have hcalls : (calls p (text.drop pos) []).map place = callsAt text p pos spans := by
    simp [calls, callsAt, place, Call.captures, Function.comp_def]
  have haccepts : ∀ rest bound s,
      (byValue rest bound s).1 = accepts (text.length - rest.length) :=
    fun rest bound s => keeping_accepts h _ _ s
  have hkept : ∀ rest bound s, (byValue rest bound s).2.2 =
      if accepts (text.length - rest.length) then some (place (rest, bound)) else s.2 :=
    fun rest bound s => keeping_kept h _ _ s
  have hrun := run_eq_find? Prod.snd place haccepts hkept p (text.drop pos) [] (s := (s, none)) rfl
  rw [hagrees.eq] at hrun
  refine ⟨hrun.1.trans ?_, hrun.2.trans ?_, hagrees.restored⟩
  · rw [← hcalls, List.any_map]
    rfl
  · rw [← hcalls, List.find?_map]
    rfl

/-- **The machine in place is plain backtracking**, whatever the continuation does, if its answer
depends on the position alone: it gives the same answer, the first position that is accepted and the
slices handed on with it are the same, and if nothing is accepted its slices are those it began
with. Read as texts, it is the machine that the matchers run. -/
theorem runInPlace_eq_search (h : ∀ pos spans s, (follow pos spans s).1 = accepts pos)
    (p : Program) (hpos : pos ≤ text.length) (spans : Spans) (s : σ) :
    (let fast := p.runInPlace text follow.keeping 0 pos (∅, spans, s, none)
      let plain := p.search text follow.keeping pos spans (s, none)
      fast.1 = plain.1 ∧ fast.2.2.2.2 = plain.2.2 ∧ (fast.1 = false → fast.2.2.1 = spans)) ∧
    ∀ byValue : Follow σ,
      p.run byValue 0 (text.drop pos) (spans.read text) (∅, s) =
        let r := p.runInPlace text (byValue.at text) 0 pos (∅, spans, s)
        (r.1, (r.2.1, r.2.2.2)) := by
  obtain ⟨hanswer, hkept, hrestored⟩ := runInPlace_eq_find? h p hpos spans s
  obtain ⟨hanswer', hkept'⟩ := search_eq_find? h p hpos spans s
  exact ⟨⟨hanswer.trans hanswer'.symm, hkept.trans hkept'.symm, hrestored⟩,
    fun byValue => run_eq_runInPlace byValue p hpos spans 0 ∅ s⟩

end Keeping

/-- Counts the calls, and accepts at one position. -/
def countUntil (stop : Nat) : FollowAt Nat := fun pos _ calls => (pos == stop, calls + 1)

/-- Two attributes side by side. -/
def pairProgram : Program :=
  ofPath .default (.literal "/" (.attr "a" none (.literal "-" (.attr "b" none .empty))))

/-- Of the ways to split a text between two attributes, both take the one with the longest first
slice. -/
theorem runInPlace_eq_search_pair :
    (∀ pos spans calls, (countUntil 8 pos spans calls).1 = (pos == 8)) ∧
      2 ≤ "id/x-y-z".toList.length ∧
      let fast := pairProgram.runInPlace "id/x-y-z".toList (countUntil 8).keeping 0 2
        (∅, [("id", 0, 2)], 0, none)
      let plain := pairProgram.search "id/x-y-z".toList (countUntil 8).keeping 2 [("id", 0, 2)]
        (0, none)
      plain.1 = true ∧ plain.2.2 = some (8, [("b", 7, 8), ("a", 3, 6), ("id", 0, 2)]) ∧
        fast.1 = plain.1 ∧ fast.2.2.2.2 = plain.2.2 ∧
        (fast.1 = false → fast.2.2.1 = [("id", 0, 2)]) := by
  have hfollow : ∀ pos spans calls, (countUntil 8 pos spans calls).1 = (pos == 8) :=
    fun _ _ _ => rfl
  have hpos : 2 ≤ "id/x-y-z".toList.length := by decide
  exact ⟨hfollow, hpos, by decide +kernel, by decide +kernel,
    (runInPlace_eq_search hfollow pairProgram hpos [("id", 0, 2)] 0).1⟩

end HttpRouting.Program
