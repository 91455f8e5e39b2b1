/-
Walking the merged forest gives the same outcome as matching one route after the other.

* `Walk.Keeps`: what a walk has to remember of the leaves that it met or left out;
* `Walk.Keeps.reach`, `Walk.Keeps.skip`: it does so at a leaf, and where a part is left out;
* `Walk.Keeps.decides`: what it remembers in the end decides the outcome;
* `Walk.Kept`: the invariant of a walk: what was visited is explored;
* `Arena.visitAll_kept`: the walk over a row meets the leaves of the row;
* `Arena.find_decides`: the outcome is the one that the answers of the routes call for;
* `Arena.find_eq_find_linear`: the two ways of matching agree.

A walk leaves out a node that it visited before with the same rest of the path, and a node whose
leaves all come after the best route so far. Neither can hold the first way to a leaf that counts.
-/
import HttpRouting.Matching.TreeWalk
import HttpRouting.Proofs.Forest.Chains
import HttpRouting.Proofs.Forest.Layout
import HttpRouting.Proofs.Matching.Linear

namespace HttpRouting

open Forest (Hit)

/-! ### What a walk remembers -/

namespace Walk

/-- What a walk remembers of the leaves `past` that it would have met without shortcuts: the
captures of the first way to each leaf, and the best route. It may have left out leaves that come
after the best route. -/
structure Keeps (method : String) (past : List Hit) (w : Walk) : Prop where
  first : ∀ h ∈ w.reached, past.find? (·.1 == h.1) = some h
  seen : ∀ h ∈ past, (∃ e ∈ w.reached, e.1 = h.1) ∨ ∃ b, w.best = some b ∧ b < h.1
  best_reached : ∀ b, w.best = some b → ∃ h ∈ w.reached, h.1 = b ∧ h.2.1.name = method
  best_le : ∀ h ∈ w.reached, h.2.1.name = method → ∃ b, w.best = some b ∧ b ≤ h.1

variable {method : String} {past new : List Hit} {w : Walk}

lemma keeps_empty (method : String) : ({} : Walk).Keeps method [] where
  first := by simp
  seen := by simp
  best_reached := by simp
  best_le := by simp

/-- Leaves can be left out if they were met before, or come after the best route. -/
lemma Keeps.skip (h : w.Keeps method past)
    (hnew : ∀ h ∈ new, (∃ h' ∈ past, h'.1 = h.1) ∨ ∃ b, w.best = some b ∧ b < h.1) :
    w.Keeps method (past ++ new) where
  first e he := by rw [List.find?_append, h.first e he, Option.some_or]
  seen e he := by
    rcases List.mem_append.1 he with he | he
    · exact h.seen e he
    · rcases hnew e he with ⟨e', he', heq⟩ | hb
      · rw [← heq]
        exact h.seen e' he'
      · exact .inr hb
  best_reached := h.best_reached
  best_le := h.best_le

/-- A node promises nothing more exactly if all it leads to comes after the best route. -/
lemma promises_eq_false_iff {first : Option Nat} :
    w.promises first = false ↔ ∃ b, w.best = some b ∧ ∀ i, first = some i → b < i := by
  cases hb : w.best with
  | none => simp [promises, hb]
  | some b => cases first <;> simp [promises, hb]

/-- A walk remembers a leaf that it reaches. -/
lemma Keeps.reach (h : w.Keeps method past) {i : Nat} (hi : w.promises (some i) = true) (m : Method)
    (c : Captures) : (w.reach method i m c).Keeps method (past ++ [(i, m, c)]) := by
  by_cases hr : w.reached.any (·.1 == i)
  · rw [Walk.reach, if_pos hr]
    obtain ⟨e, he, hei⟩ := List.any_eq_true.1 hr
    obtain rfl : e.1 = i := by simpa using hei
    refine h.skip fun e' he' => .inl ⟨e, ?_, ?_⟩
    · exact List.mem_of_find?_eq_some (h.first e he)
    · rw [List.mem_singleton.1 he']
  · rw [Walk.reach, if_neg hr]
    have hbest : ∀ b, w.best = some b → i ≤ b := by
      intro b hb
      simpa [promises, hb] using hi
    -- an earlier hit of the leaf would have been reached, or have come after the best route
    have hnew : past.find? (·.1 == i) = none := by
      refine List.find?_eq_none.2 fun e he hei => ?_
      obtain rfl : e.1 = i := by simpa using hei
      rcases h.seen e he with ⟨e', he', heq⟩ | ⟨b, hb, hlt⟩
      · exact hr (List.any_eq_true.2 ⟨e', he', by simpa using heq⟩)
      · exact absurd (hbest b hb) (by omega)
    refine ⟨?first, ?seen, ?best_reached, ?best_le⟩
    case first =>
      intro e he
      rw [List.find?_append]
      rcases List.mem_cons.1 he with rfl | he
      · simp [hnew]
      · rw [h.first e he, Option.some_or]
    case seen =>
      intro e he
      rcases List.mem_append.1 he with he | he
      · rcases h.seen e he with ⟨e', he', heq⟩ | ⟨b, hb, hlt⟩
        · exact .inl ⟨e', List.mem_cons_of_mem _ he', heq⟩
        · refine .inr ?_
          split
          · exact ⟨i, rfl, Nat.lt_of_le_of_lt (hbest b hb) hlt⟩
          · exact ⟨b, hb, hlt⟩
      · rw [List.mem_singleton.1 he]
        exact .inl ⟨_, List.mem_cons_self, rfl⟩
    case best_reached =>
      intro b hb
      split at hb
      · next hm =>
          cases hb
          exact ⟨_, List.mem_cons_self, rfl, hm.1⟩
      · obtain ⟨e, he, heq⟩ := h.best_reached b hb
        exact ⟨e, List.mem_cons_of_mem _ he, heq⟩
    case best_le =>
      intro e he hm
      rcases List.mem_cons.1 he with rfl | he
      · have hm : m.name = method := hm
        cases hb : w.best with
        | none => exact ⟨i, by simp [hm], Nat.le_refl i⟩
        | some b =>
            by_cases hlt : i < b
            · exact ⟨i, by simp [hm, hlt], Nat.le_refl i⟩
            · exact ⟨b, by simp [hlt], Nat.le_of_not_lt hlt⟩
      · obtain ⟨b, hb, hle⟩ := h.best_le e he hm
        split
        · exact ⟨i, rfl, Nat.le_trans (hbest b hb) hle⟩
        · exact ⟨b, hb, hle⟩

/-- Answers of routes that are the first ways to their leaves. -/
def Firsts (past : List Hit) (as : Answers) : Prop :=
  ∀ i m c, as[i]? = some (m, some c) ↔ past.find? (·.1 == i) = some (i, m, c)

section Outcome

variable {as : Answers}

/-- The answer of a route whose leaf was reached. -/
lemma Keeps.getElem?_of_mem (h : w.Keeps method past) (has : Firsts past as) {e : Hit}
    (he : e ∈ w.reached) : as[e.1]? = some (e.2.1, some e.2.2) :=
  (has e.1 e.2.1 e.2.2).2 (h.first e he)

/-- The leaf of a route that answers was reached, or it comes after the best route. -/
lemma Keeps.mem_reached_of_hit (h : w.Keeps method past) (has : Firsts past as) {m : Method}
    {i : Nat} (hi : as.Hit m i) :
    (∃ c, (i, m, c) ∈ w.reached) ∨ ∃ b, w.best = some b ∧ b < i := by
  obtain ⟨c, hc⟩ := hi
  have hfind := (has i m c).1 hc
  rcases h.seen _ (List.mem_of_find?_eq_some hfind) with ⟨⟨j, m', c'⟩, he, rfl⟩ | hb
  · rw [h.first _ he] at hfind
    cases hfind
    exact .inl ⟨c, he⟩
  · exact .inr hb

/-- A leaf is reached once. -/
lemma Keeps.find?_reached (h : w.Keeps method past) {e : Hit} (he : e ∈ w.reached) :
    w.reached.find? (·.1 == e.1) = some e := by
  have hex : (w.reached.find? (·.1 == e.1)).isSome := by
    rw [List.find?_isSome]
    exact ⟨e, he, by simp⟩
  obtain ⟨e', he'⟩ := Option.isSome_iff_exists.1 hex
  have heq : e'.1 = e.1 := by simpa using List.find?_some he'
  have hfirst := h.first e' (List.mem_of_find?_eq_some he')
  rw [heq, h.first e he] at hfirst
  rw [he', hfirst]

/-- The best route is the first one with the method. -/
lemma Keeps.decides_of_best (h : w.Keeps method past) (has : Firsts past as) {b : Nat}
    (hb : w.best = some b) : Decides as method w.outcome := by
  obtain ⟨e, he, rfl, hname⟩ := h.best_reached b hb
  have hout : w.outcome = .matched e.1 e.2.2 := by
    rw [outcome, hb, Option.bind_some, h.find?_reached he]
  rw [hout]
  refine .matched hname (h.getElem?_of_mem has he) fun j hj hit => ?_
  rcases h.mem_reached_of_hit has hit with ⟨c, hc⟩ | ⟨b, hb', hlt⟩
  · obtain ⟨b, hb', hle⟩ := h.best_le _ hc hname
    rw [hb] at hb'
    cases hb'
    omega
  · rw [hb] at hb'
    cases hb'
    omega

/-- Without a best route, all leaves that count were reached. -/
lemma Keeps.decides_of_none (h : w.Keeps method past) (has : Firsts past as)
    (hb : w.best = none) : Decides as method w.outcome := by
  have hreached : ∀ {m i}, as.Hit m i → ∃ c, (i, m, c) ∈ w.reached := by
    intro m i hi
    rcases h.mem_reached_of_hit has hi with hc | ⟨b, hb', -⟩
    · exact hc
    · exact nomatch hb.symm.trans hb'
  have hnotes := AllowedMethods.notes_foldl (fun e : Hit => some (e.2.1, e.1)) (fun _ _ => rfl)
    w.reached
  have hhits : ∀ m i, (∃ e ∈ w.reached, some (e.2.1, e.1) = some (m, i)) ↔ as.Hit m i := by
    intro m i
    constructor
    · rintro ⟨e, he, hm⟩
      cases hm
      exact ⟨e.2.2, h.getElem?_of_mem has he⟩
    · intro hi
      obtain ⟨c, hc⟩ := hreached hi
      exact ⟨_, hc, rfl⟩
  have hout : w.outcome =
      (w.reached.foldl (fun (a : AllowedMethods) (e : Hit) => a.record e.2.1 e.1) {}).outcome := by
    rw [outcome, hb]
    rfl
  rw [hout]
  refine .failed (fun m i hi hm => ?_) ((hnotes.congr hhits).lists Answers.Hit.method_eq)
  obtain ⟨c, hc⟩ := hreached hi
  obtain ⟨b, hb', -⟩ := h.best_le _ hc hm
  exact nomatch hb.symm.trans hb'

/-- **What a walk remembers in the end decides the outcome.** -/
theorem Keeps.decides (h : w.Keeps method past) (has : Firsts past as) :
    Decides as method w.outcome := by
  cases hb : w.best with
  | some b => exact h.decides_of_best has hb
  | none => exact h.decides_of_none has hb

end Outcome

end Walk

/-! ### Visiting -/

/-- All leaves that a tree meets on the rest of the path with `l` characters were met. -/
def Explored (path : List Char) (tree : Forest) (l : Nat) (past : List Hit) : Prop :=
  ∀ text, text <:+ path → text.length = l → ∀ h ∈ tree.hits [] text, ∃ h' ∈ past, h'.1 = h.1

lemma Explored.append {path : List Char} {tree : Forest} {l : Nat} {past : List Hit}
    (h : Explored path tree l past) (new : List Hit) : Explored path tree l (past ++ new) :=
  fun text ht hl e he => by
    obtain ⟨e', he', heq⟩ := h text ht hl e he
    exact ⟨e', List.mem_append_left _ he', heq⟩

/-- The leaves that a tree meets on a rest of the path explore it there. -/
lemma explored_hits {path rest : List Char} (hrest : rest <:+ path) (tree : Forest)
    (past : List Hit) (bound : Captures) :
    Explored path tree rest.length (past ++ tree.hits bound rest) := by
  intro text ht hl e he
  rw [Program.eq_of_suffix_of_length_eq ht hrest hl] at he
  obtain ⟨e', he', heq⟩ := Forest.exists_mem_hits he bound
  exact ⟨e', List.mem_append_right _ he', heq⟩

namespace Walk

/-- The invariant of a walk over the part of the forest `whole` from the place `start` on: the
leaves met are remembered, the nodes visited in that part are explored, and those before it are
among the ones it was given. -/
structure Kept (path : List Char) (method : String) (whole : Forest)
    (given : Std.HashSet (Nat × Nat)) (start : Nat) (past : List Hit) (w : Walk) : Prop where
  keeps : w.Keeps method past
  explored : ∀ point ∈ w.visited, start ≤ point.1 → Explored path (whole.treeAt point.1) point.2 past
  old : ∀ point ∈ w.visited, point.1 < start → point ∈ given

variable {path : List Char} {method : String} {whole : Forest} {given : Std.HashSet (Nat × Nat)}
  {start : Nat} {past new : List Hit} {w w' : Walk}

lemma visited_reach (w : Walk) (method : String) (i : Nat) (m : Method) (c : Captures) :
    (w.reach method i m c).visited = w.visited := by
  rw [reach]
  split <;> rfl

/-- Leaves that were met, or that come after the best route, can be left out. -/
lemma Kept.skip (h : w.Kept path method whole given start past)
    (hnew : ∀ h ∈ new, (∃ h' ∈ past, h'.1 = h.1) ∨ ∃ b, w.best = some b ∧ b < h.1) :
    w.Kept path method whole given start (past ++ new) where
  keeps := h.keeps.skip hnew
  explored := fun point hp hs => (h.explored point hp hs).append new
  old := h.old

/-- The walk goes on to a later part. -/
lemma Kept.enter (h : w.Kept path method whole given start past) {next : Nat} (hn : start ≤ next) :
    w.Kept path method whole w.visited next past where
  keeps := h.keeps
  explored := fun point hp hs => h.explored point hp (Nat.le_trans hn hs)
  old := fun _ hp _ => hp

/-- The walk comes back from a later part. -/
lemma Kept.leave (h : w.Kept path method whole given start past) {next : Nat} (hn : start ≤ next)
    (h' : w'.Kept path method whole w.visited next (past ++ new)) :
    w'.Kept path method whole given start (past ++ new) where
  keeps := h'.keeps
  explored := fun point hp hs => by
    by_cases hlt : point.1 < next
    · exact (h.explored point (h'.old point hp hlt) hs).append new
    · exact h'.explored point hp (by omega)
  old := fun point hp hs => h.old point (h'.old point hp (by omega)) hs

/-- A leaf is reached at the end of the path. -/
lemma Kept.reach (h : w.Kept path method whole given start past) {i : Nat}
    (hi : w.promises (some i) = true) (m : Method) (c : Captures) :
    (w.reach method i m c).Kept path method whole given start (past ++ [(i, m, c)]) where
  keeps := h.keeps.reach hi m c
  explored := fun point hp hs => by
    rw [visited_reach] at hp
    exact (h.explored point hp hs).append _
  old := fun point hp hs => by
    rw [visited_reach] at hp
    exact h.old point hp hs

/-- A node that is visited is noted before its children are. -/
def note (w : Walk) (point : Nat × Nat) : Walk :=
  { w with visited := w.visited.insert point }

lemma Kept.enter_note (h : w.Kept path method whole given start past) (l : Nat) :
    (w.note (start, l)).Kept path method whole (w.note (start, l)).visited (start + 1) past where
  keeps := ⟨h.keeps.first, h.keeps.seen, h.keeps.best_reached, h.keeps.best_le⟩
  explored := fun point hp hs => by
    rcases Std.HashSet.mem_insert.1 hp with he | hp
    · obtain rfl := LawfulBEq.eq_of_beq he
      exact absurd hs (Nat.not_succ_le_self start)
    · exact h.explored point hp (by omega)
  old := fun _ hp _ => hp

/-- The node is explored once its children are. -/
lemma Kept.leave_note (h : w.Kept path method whole given start past) {l : Nat}
    (h' : w'.Kept path method whole (w.note (start, l)).visited (start + 1) (past ++ new))
    (hl : Explored path (whole.treeAt start) l (past ++ new)) :
    w'.Kept path method whole given start (past ++ new) where
  keeps := h'.keeps
  explored := fun point hp hs => by
    by_cases hlt : point.1 < start + 1
    · rcases Std.HashSet.mem_insert.1 (h'.old point hp hlt) with he | hp
      · obtain rfl := LawfulBEq.eq_of_beq he
        exact hl
      · exact (h.explored point hp hs).append new
    · exact h'.explored point hp (by omega)
  old := fun point hp hs => by
    rcases Std.HashSet.mem_insert.1 (h'.old point hp (by omega)) with he | hp
    · obtain rfl := LawfulBEq.eq_of_beq he
      exact absurd hs (Nat.lt_irrefl _)
    · exact h.old point hp hs

end Walk

namespace Arena

variable {a : Arena} {path : List Char} {method : String} {whole : Forest}
  {given : Std.HashSet (Nat × Nat)} {start : Nat} {past : List Hit} {w : Walk}

/-- What a visit does at a node that it does not leave out. `below` walks over the children. -/
def act (method : String) (below : List Char → Captures → Walk → Walk) (action : ArenaAction)
    (rest : List Char) (bound : Captures) (w : Walk) : Walk :=
  match action with
  | .leaf index m => if rest.isEmpty then w.reach method index m bound.reverse else w
  | .literal text =>
    match stripPrefix? text rest with
    | some rest => below rest bound w
    | none => w
  | .capture name type =>
    (Program.firstEnd (fun n w =>
      if type.accepts (rest.take n) then
        (false, below (rest.drop n) ((name, String.ofList (rest.take n)) :: bound) w)
      else (false, w)) rest.length w).2
  | .optional program =>
    (program.run (fun rest bound w => (false, below rest bound w)) 0 rest bound (∅, w)).2.2

/-- Walks over the nodes at some places. -/
def visitAll (a : Arena) (method : String) (ids : List Nat) (rest : List Char) (bound : Captures)
    (w : Walk) : Walk :=
  ids.foldl (fun w id => a.visit method id rest bound w) w

/-- The condition on the places of children holds for all of them. -/
lemma foldl_dite_of_forall {p : Nat → Prop} [DecidablePred p] {ids : List Nat}
    (hids : ∀ id ∈ ids, p id) (g : Walk → Nat → Walk) (w : Walk) :
    ids.foldl (fun w id => if _h : p id then g w id else w) w = ids.foldl g w := by
  induction ids generalizing w with
  | nil => rfl
  | cons id ids ih =>
      rw [List.foldl_cons, List.foldl_cons, dif_pos (hids id List.mem_cons_self),
        ih fun id hid => hids id (List.mem_cons_of_mem _ hid)]

/-- A visit leaves a node out, or notes it and acts at it. -/
lemma visit_eq {id : Nat} {node : ArenaNode} (hnode : a.nodes[id]? = some node)
    (hchildren : ∀ child ∈ node.children, id < child ∧ child < a.nodes.size) (rest : List Char)
    (bound : Captures) (w : Walk) :
    a.visit method id rest bound w =
      if !w.promises node.first || w.visited.contains (id, rest.length) then w
      else act method (a.visitAll method node.children) node.action rest bound
        (w.note (id, rest.length)) := by
  rw [visit, hnode]
  simp only [foldl_dite_of_forall hchildren]
  rfl

lemma hits_leaf (i : Nat) (m : Method) (right : Forest) (rest : List Char) (bound : Captures) :
    (Forest.leaf i m right).hits bound rest =
      (Forest.leaf i m .empty).hits bound rest ++ right.hits bound rest := by
  rw [Forest.hits, Forest.hits, Forest.hits, List.append_nil]

lemma hits_branch_right (s : Segment) (below right : Forest) (rest : List Char)
    (bound : Captures) :
    (Forest.branch s below right).hits bound rest =
      (Forest.branch s below .empty).hits bound rest ++ right.hits bound rest := by
  rw [Forest.hits, Forest.hits, Forest.hits, List.append_nil]

/-- What the calls of a program lead to: the leaves of the row below, met after each call. -/
lemma hits_branch (s : Segment) (below : Forest) (rest : List Char) (bound : Captures) :
    (Forest.branch s below .empty).hits bound rest =
      (s.program.calls rest bound).flatMap fun c => below.hits c.2 c.1 := by
  rw [Forest.hits, Forest.hits, List.append_nil, Segment.ways, Program.calls, List.flatMap_map]

section Below

variable {s : Nat} {below : Forest} {go : List Char → Captures → Walk → Walk}

/-- An optional part hands its calls to the row below, which accepts none. -/
lemma tracks_below (hgo : ∀ {rest past w} bound, rest <:+ path →
      w.Kept path method whole given s past →
      (go rest bound w).Kept path method whole given s (past ++ below.hits bound rest)) :
    Program.Follow.Tracks path (fun rest bound w => (false, go rest bound w))
      (fun calls w => w.Kept path method whole given s
        (past ++ calls.flatMap fun c => below.hits c.2 c.1)) fun _ _ => False where
  call := by
    intro calls rest w h hrest bound
    have hnew := hgo bound hrest h
    simpa [Program.Covers, List.append_assoc] using hnew
  skip := by
    rintro calls rest bound w h ⟨b, hb⟩
    rw [List.flatMap_append, ← List.append_assoc]
    refine h.skip fun e he => .inl ?_
    rw [List.flatMap_singleton] at he
    obtain ⟨e', he', heq⟩ := Forest.exists_mem_hits he b
    exact ⟨e', List.mem_append_right _ (List.mem_flatMap.2 ⟨_, hb, he'⟩), heq⟩

/-- Acting at the node of a segment meets the leaves of the row below it, after each way through
the segment. -/
lemma act_kept (hgo : ∀ {rest past w} bound, rest <:+ path →
      w.Kept path method whole given s past →
      (go rest bound w).Kept path method whole given s (past ++ below.hits bound rest))
    (seg : Segment) {rest : List Char} {bound : Captures} (hrest : rest <:+ path)
    (h : w.Kept path method whole given s past) :
    (act method go (.ofSegment seg) rest bound w).Kept path method whole given s
      (past ++ (Forest.branch seg below .empty).hits bound rest) := by
  rw [hits_branch]
  cases seg with
  | literal text =>
      rw [Segment.program, Program.calls_literal, ArenaAction.ofSegment, act]
      cases hs : stripPrefix? text.toList rest with
      | none => simpa using h
      | some rest' =>
          have hnew := hgo bound ((Program.suffix_of_stripPrefix? hs).trans hrest) h
          simpa [Program.calls_done] using hnew
  | attr name type =>
      rw [Segment.program, Program.calls_capture, ArenaAction.ofSegment, act, List.flatMap_assoc]
      refine Program.Covers.of_never (Program.firstEnd_covers
        (P := fun past (w : Walk) => w.Kept path method whole given s past) ?_ h)
      rintro n - past w h
      by_cases ha : type.accepts (rest.take n)
      · have hnew := hgo ((name, String.ofList (rest.take n)) :: bound)
          ((List.drop_suffix n rest).trans hrest) h
        simpa [ha, Program.calls_done, Program.Covers] using hnew
      · simpa [ha, Program.Covers] using h
  | optional inner registry =>
      rw [Segment.program, ArenaAction.ofSegment, act]
      have hkept : Program.Kept path
          (fun calls (w : Walk) => w.Kept path method whole given s
            (past ++ calls.flatMap fun c => below.hits c.2 c.1)) ∅ 0
          (.optional (Program.ofPath registry inner)) [] (∅, w) :=
        ⟨by simpa using h, by simp, by simp⟩
      have hrun := Program.run_covers (tracks_below hgo) hrest hkept bound
      simpa using hrun.of_never.record

end Below

/-- Acting at a leaf meets it at the end of the path. -/
lemma act_leaf_kept {s i : Nat} {m : Method} {rest : List Char} {bound : Captures}
    {go : List Char → Captures → Walk → Walk} (h : w.Kept path method whole given s past)
    (hp : w.promises (some i) = true) :
    (act method go (.leaf i m) rest bound w).Kept path method whole given s
      (past ++ (Forest.leaf i m .empty).hits bound rest) := by
  rw [act, Forest.hits, Forest.hits, List.append_nil]
  split
  · exact h.reach hp m bound.reverse
  · simpa using h

/-- A node that promises nothing leads to leaves that come after the best route. -/
lemma lt_of_not_promises {below : Forest} {b : Nat}
    (hb : ∀ i, below.minLeaf? = some i → b < i) {i : Nat} (hi : i ∈ below.leaves) : b < i := by
  cases hm : below.minLeaf? with
  | none =>
      rw [List.min?_eq_none_iff.1 hm] at hi
      exact nomatch hi
  | some j =>
      have hle : j ≤ i := (List.min?_eq_some_iff.1 hm).2 i hi
      exact Nat.lt_of_lt_of_le (hb j hm) hle

/-- A visit meets the leaves of its tree, or leaves out those that do not count. -/
lemma visit_kept {node : ArenaNode} {tree : Forest} {rest : List Char} (bound : Captures)
    (hnode : a.nodes[start]? = some node)
    (hchildren : ∀ child ∈ node.children, start < child ∧ child < a.nodes.size)
    (htree : whole.treeAt start = tree) (hrest : rest <:+ path)
    (hfirst : ∀ b, (∀ i, node.first = some i → b < i) → ∀ i ∈ tree.leaves, b < i)
    (hact : w.promises node.first = true →
      (act method (a.visitAll method node.children) node.action rest bound
        (w.note (start, rest.length))).Kept path method whole (w.note (start, rest.length)).visited
        (start + 1) (past ++ tree.hits bound rest))
    (h : w.Kept path method whole given start past) :
    (a.visit method start rest bound w).Kept path method whole given start
      (past ++ tree.hits bound rest) := by
  rw [visit_eq hnode hchildren]
  by_cases hp : w.promises node.first
  · by_cases hv : w.visited.contains (start, rest.length)
    · rw [if_pos (by simp [hv])]
      refine h.skip fun e he => .inl ?_
      have hexp := h.explored _ hv (Nat.le_refl start)
      rw [htree] at hexp
      obtain ⟨e', he', heq⟩ := Forest.exists_mem_hits he []
      obtain ⟨e'', he'', heq'⟩ := hexp rest hrest rfl e' he'
      exact ⟨e'', he'', heq'.trans heq⟩
    · rw [if_neg (by simp [hp, hv])]
      refine h.leave_note (hact hp) ?_
      rw [htree]
      exact explored_hits hrest tree past bound
  · rw [if_pos (by simp [hp])]
    obtain ⟨b, hb, hlt⟩ := Walk.promises_eq_false_iff.1 (Bool.eq_false_iff.2 hp)
    exact h.skip fun e he => .inr ⟨b, hb, hfirst b hlt _ (Forest.mem_leaves_of_mem_hits he)⟩

/-- **The walk over a row meets the leaves of the row.** The induction is on the row: first its
first tree, where the row below it comes one place later, and then what is to the right. -/
theorem visitAll_kept (f : Forest) (hholds : a.Holds start f) (hstands : whole.StandsAt start f)
    {rest : List Char} (bound : Captures) (hrest : rest <:+ path)
    (h : w.Kept path method whole given start past) :
    (a.visitAll method (layOut start f).2 rest bound w).Kept path method whole given start
      (past ++ f.hits bound rest) := by
  induction f generalizing start rest bound given past w with
  | empty => simpa [layOut, visitAll, Forest.hits] using h
  | leaf i m right ih =>
      obtain ⟨hnode, hright⟩ := hholds.leaf
      have htree : whole.treeAt start = .leaf i m .empty := by
        simpa [Forest.treeAt] using hstands 0 (by simp [Forest.size])
      have hfirst := visit_kept bound hnode (by simp) htree hrest
        (fun b hb j hj => by
          obtain rfl : j = i := by simpa [Forest.leaves] using hj
          exact hb j rfl)
        (fun hp => act_leaf_kept (h.enter_note rest.length) hp) h
      have hall := hfirst.leave (Nat.le_succ start)
        (ih hright hstands.right_of_leaf bound hrest (hfirst.enter (Nat.le_succ start)))
      rw [hits_leaf, ← List.append_assoc]
      exact hall
  | branch s below right ihb ihr =>
      obtain ⟨hnode, hbelow, hright⟩ := hholds.branch
      have htree : whole.treeAt start = .branch s below .empty := by
        simpa [Forest.treeAt] using hstands 0 (by simp [Forest.size])
      -- the children are laid out right after their parent, and before the trees to its right
      have hchildren : ∀ child ∈ (layOut (start + 1) below).2,
          start < child ∧ child < a.nodes.size := fun child hc =>
        ⟨(mem_roots_layOut hc).1, hbelow.lt_size (mem_roots_layOut hc).1 (mem_roots_layOut hc).2⟩
      have hfirst := visit_kept bound hnode hchildren htree hrest
        (fun b hb i hi => lt_of_not_promises hb (by simpa [Forest.leaves] using hi))
        (fun _ => act_kept (fun bound hrest h => ihb hbelow hstands.below bound hrest h) s hrest
          (h.enter_note rest.length)) h
      have hle : start ≤ start + 1 + below.size := by omega
      have hall := hfirst.leave hle
        (ihr hright hstands.right bound hrest (hfirst.enter hle))
      rw [hits_branch_right, ← List.append_assoc]
      rw [roots_branch]
      exact hall

/-- The walk from the roots meets the leaves of the forest. -/
lemma walk_kept (f : Forest) (method : String) (path : List Char) :
    ((ofForest f).walk method path).Keeps method (f.hits [] path) := by
  have hstands : f.StandsAt 0 f := fun k _ => by rw [Nat.zero_add]
  have hkept : Walk.Kept path method f ∅ 0 [] {} := ⟨Walk.keeps_empty method, by simp, by simp⟩
  have hall := visitAll_kept f (holds_ofForest f) hstands [] path.suffix_refl hkept
  exact hall.keeps

/-- The outcome is the one that the answers of the machine call for. -/
theorem find_decides {α : Type} (t : RouteTable α) (method path : String) :
    Decides (t.answers path.toList) method ((ofForest (Forest.ofTable t)).find method path) := by
  have hnodup : (Forest.ofTable t).leaves.Nodup := by
    rw [Forest.leaves_ofTable]
    exact List.nodup_range
  refine (walk_kept (Forest.ofTable t) method path.toList).decides fun i m c => ?_
  rw [RouteTable.answers_getElem?_eq_some_iff]
  constructor
  · rintro ⟨r, hr, rfl, hc⟩
    have hchain : (Segment.ofPath r.registry r.path, i, r.method) ∈ (Forest.ofTable t).chains := by
      rw [Forest.chains_ofTable]
      exact List.mem_map.2 ⟨(r, i), List.mk_mem_zipIdx_iff_getElem?.2 hr, rfl⟩
    rw [Forest.find?_hits hnodup hchain, ← ways_ofPath]
    rw [Route.captures?, Program.captures?_eq_find?_ways] at hc
    obtain ⟨way, hway, rfl⟩ := Option.map_eq_some_iff.1 hc
    rw [hway, Option.map_some]
  · intro hfind
    have hleaf := Forest.mem_leaves_of_mem_hits (List.mem_of_find?_eq_some hfind)
    rw [Forest.leaves_eq_map_chains, Forest.chains_ofTable, List.map_map] at hleaf
    obtain ⟨⟨r, j⟩, hr, rfl⟩ := List.mem_map.1 hleaf
    have hchain : (Segment.ofPath r.registry r.path, j, r.method) ∈ (Forest.ofTable t).chains := by
      rw [Forest.chains_ofTable]
      exact List.mem_map.2 ⟨(r, j), hr, rfl⟩
    refine ⟨r, List.mk_mem_zipIdx_iff_getElem?.1 hr, ?_⟩
    rw [Route.captures?, Program.captures?_eq_find?_ways, ways_ofPath]
    dsimp only [Function.comp_apply] at hfind
    rw [Forest.find?_hits hnodup hchain] at hfind
    obtain ⟨way, hway, he⟩ := Option.map_eq_some_iff.1 hfind
    obtain ⟨rfl, rfl⟩ : r.method = m ∧ way.2 = c := by simpa using he
    rw [hway]
    exact ⟨rfl, rfl⟩

/-- **The forest and the list of the routes agree.** -/
theorem find_eq_find_linear {α : Type} (t : RouteTable α) (method path : String) :
    (ofForest (Forest.ofTable t)).find method path = (LinearMatcher.ofTable t).find method path :=
  (find_decides t method path).unique (LinearMatcher.find_decides t method path)

end Arena

end HttpRouting
