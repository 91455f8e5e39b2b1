/-
What the runs of routes report, whatever their types.

* `Reported`: some marks are those of groups of some kind, and then those of what follows from a
  later position;
* `Reports`: a way to run that reports groups of some kind only;
* `Regex.reports_run`: expressions without groups report nothing;
* `reports_pathRun`: the notation of a path reports attributes only;
* `MarkedRoute.marks_of_run`: a run of a route on a path and a method ends with the mark of the
  route, and the method is the one of the route.

Anchors are about the characters around a position, so how the pattern of a type runs depends on
where it stands. What it reports does not, nor that the run goes on later in the text.
-/
import HttpRouting.Proofs.Matching.Represents

namespace HttpRouting

/-! ### Reports -/

/-- Some marks are those of groups of some kind, and then those of what follows from a later
position. -/
def Reported (kind : String → Prop) (k : Onward) (p : Spot) (marks : List Mark) : Prop :=
  ∃ before q after, marks = before ++ after ∧ (∀ mark ∈ before, kind mark.name) ∧
    q.rest <:+ p.rest ∧ k q = some after

/-- A way to run that reports groups of some kind only. -/
def Reports (kind : String → Prop) (f : Onward → Onward) : Prop :=
  ∀ k p marks, f k p = some marks → Reported kind k p marks

section Reports

variable {kind : String → Prop} {f g : Onward → Onward} {k k' : Onward} {p : Spot}
  {marks : List Mark}

/-- What goes on at once reports nothing. -/
lemma reported_of_eq (h : k p = some marks) : Reported kind k p marks :=
  ⟨[], p, marks, rfl, by simp, List.suffix_refl _, h⟩

/-- What follows may report as well before it goes on. -/
lemma Reported.bind (h : Reported kind k p marks)
    (hk : ∀ q after, k q = some after → Reported kind k' q after) : Reported kind k' p marks := by
  obtain ⟨before, q, after, rfl, hbefore, hq, h⟩ := h
  obtain ⟨between, q', after, rfl, hbetween, hq', h⟩ := hk q after h
  refine ⟨before ++ between, q', after, (List.append_assoc _ _ _).symm, ?_, hq'.trans hq, h⟩
  exact List.forall_mem_append.2 ⟨hbefore, hbetween⟩

/-- One way to run after another. -/
lemma Reports.comp (hf : Reports kind f) (hg : Reports kind g) : Reports kind fun k => f (g k) :=
  fun k p marks h => (hf (g k) p marks h).bind fun q after h => hg k q after h

/-- One way to run, or else another. -/
lemma reported_of_orElse {a b : Option (List Mark)} (ha : a = some marks → Reported kind k p marks)
    (hb : b = some marks → Reported kind k p marks) (h : (a.orElse fun _ => b) = some marks) :
    Reported kind k p marks := by
  cases a with
  | none => exact hb h
  | some _ => exact ha h

/-- Further rounds of a repetition. -/
lemma Reports.rounds (hf : Reports kind f) (lazy : Bool) : Reports kind (Regex.rounds f lazy) := by
  intro k p marks h
  -- a round that takes nothing is not followed by another, so what is left gets shorter
  induction hn : p.rest.length using Nat.strongRecOn generalizing p marks with
  | ind n ih =>
      subst hn
      have hagain : f (fun q => if _h : q.rest.length < p.rest.length then
            Regex.rounds f lazy k q else none) p = some marks → Reported kind k p marks := by
        intro h
        refine (hf _ p marks h).bind fun q after h => ?_
        split at h
        · next hlt => exact ih _ hlt q after h rfl
        · exact nomatch h
      rw [Regex.rounds] at h
      split at h
      · exact reported_of_orElse reported_of_eq hagain h
      · exact reported_of_orElse hagain reported_of_eq h

end Reports

/-- **An expression without groups reports nothing.** -/
theorem Regex.reports_run {r : Regex} (h : r.isGroupFree = true) (kind : String → Prop) :
    Reports kind r.run := by
  induction r with
  | empty => exact fun k p marks => reported_of_eq
  | set s =>
      intro k p marks hrun
      rw [run] at hrun
      split at hrun
      · next c rest hp =>
          split at hrun
          · exact ⟨[], p.after c rest, marks, rfl, by simp, hp ▸ List.suffix_cons c rest, hrun⟩
          · cases hrun
      · cases hrun
  | anchor a =>
      intro k p marks hrun
      rw [run] at hrun
      split at hrun
      · exact reported_of_eq hrun
      · cases hrun
  | seq r s ihr ihs =>
      rw [isGroupFree, Bool.and_eq_true] at h
      exact (ihr h.1).comp (ihs h.2)
  | alt r s ihr ihs =>
      rw [isGroupFree, Bool.and_eq_true] at h
      exact fun k p marks => reported_of_orElse (ihr h.1 k p marks) (ihs h.2 k p marks)
  | plus r lazy ih =>
      intro k p marks hrun
      refine (ih h _ p marks hrun).bind fun q after hq => ?_
      split at hq
      · exact (ih h).rounds lazy k q after hq
      · exact reported_of_eq hq
  | group name r ih => exact absurd h Bool.false_ne_true

/-! ### The notation of routes -/

section Notation

variable {kind : String → Prop}

lemma reports_literalRun (text : List Char) : Reports kind (literalRun text) := by
  intro k p marks h
  rw [literalRun] at h
  split at h
  · refine ⟨[], _, marks, rfl, by simp, ?_, h⟩
    rw [Spot.rest_move]
    exact List.drop_suffix _ _
  · cases h

lemma Reports.optionalRun {f : Onward → Onward} (hf : Reports kind f) :
    Reports kind (optionalRun f) :=
  fun k p marks => reported_of_orElse (hf k p marks) reported_of_eq

/-- A mark in front of what follows. -/
lemma reported_of_map {k : Onward} {p : Spot} {marks : List Mark} (mark : Mark)
    (hmark : kind mark.name) (h : (k p).map (mark :: ·) = some marks) :
    Reported kind k p marks := by
  obtain ⟨after, hafter, rfl⟩ := Option.map_eq_some_iff.1 h
  exact ⟨[mark], p, after, rfl, by simpa using hmark, List.suffix_refl _, hafter⟩

/-- An attribute reports its own group only. -/
lemma reports_attributeRun {type : AttributeType} (h : type.StandsAlone) {n : Nat}
    (hkind : kind (groupName n)) : Reports kind (attributeRun type n) := by
  intro k p marks hrun
  have hopened : Reported kind (type.regex.run (closing (groupName n) k)) p marks :=
    reported_of_map (.opened (groupName n) p.index) hkind hrun
  refine hopened.bind fun q after hq => ?_
  refine (Regex.reports_run h.isGroupFree kind _ q after hq).bind fun q' after hq' => ?_
  exact reported_of_map (.closed (groupName n) q'.index) hkind hq'

/-- **The notation of a path reports attributes only.** -/
theorem reports_pathRun {registry : TypeRegistry} {p : Path} (h : p.TypesStandAlone registry)
    (n : Nat) : Reports (fun name => ∃ i, name = groupName i) (pathRun registry p n) := by
  induction p generalizing n with
  | empty => exact fun k q marks => reported_of_eq
  | literal text next ih => exact (reports_literalRun text.toList).comp (ih h n)
  | attr name typeName next ih =>
      obtain ⟨htype, hnext⟩ := h
      exact (reports_attributeRun htype ⟨n, rfl⟩).comp (ih hnext (n + 1))
  | optional inner ih => exact (ih h n).optionalRun

end Notation

/-! ### Routes that a method follows -/

variable {α : Type}

/-- Only the method of a request ends its text after the braces. -/
lemma eq_of_suffix_subject {m m' : Method} {path : List Char}
    (h : separator ++ m.name.toList <:+ subject path m'.name.toList) : m = m' := by
  obtain ⟨cs, hcs⟩ := h
  exact (subject_inj.1 ((subject_eq cs _).trans hcs)).2

/-- **A run of a route ends with the mark of the route**, after those of attributes, and the method
is the one of the route. -/
theorem MarkedRoute.marks_of_run {x : MarkedRoute α}
    (h : x.route.path.TypesStandAlone x.route.registry) {path : List Char} {m : Method}
    {marks : List Mark}
    (hrun : x.run atEnd (.ofText (subject path m.name.toList)) = some marks) :
    x.route.method = m ∧ ∃ before position, marks = before ++ markAt x.index position ∧
      ∀ mark ∈ before, ∃ i, mark.name = groupName i := by
  obtain ⟨before, q, after, rfl, hbefore, hq, hleaf⟩ :=
    reports_pathRun h x.number _ _ _ hrun
  rw [leafRun_atEnd] at hleaf
  split at hleaf
  · next hrest =>
      cases hleaf
      rw [hrest] at hq
      exact ⟨eq_of_suffix_subject hq, before, _, rfl, hbefore⟩
  · exact nomatch hleaf

end HttpRouting
