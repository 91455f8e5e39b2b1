/-
Where all types are greedy, regular expressions and the machine prefer the same way.

* `Program.ways_eq_map_splits`: the ways of the machine are those in which the path takes up the
  text, in the same order;
* `Route.captures?_eq_map_spans?`: so the first ways that take a whole path agree;
* `RouteTable.sliceAnswers_eq_answers`: so do the answers of the routes of a table;
* `RouteTable.isSelfContained_of_default`: tables of built-in types have no anchors.
-/
import HttpRouting.Proofs.AttributeType.Greedy
import HttpRouting.Proofs.Matching.Linear
import HttpRouting.Proofs.Matching.Spans
import Mathlib.Data.List.Find

namespace HttpRouting

/-- **The ways of the machine are those in which the path takes up the text.** -/
theorem Program.ways_eq_map_splits {registry : TypeRegistry} (h : registry.IsGreedy) (p : Path)
    (text : List Char) (i : Nat) :
    (ofPath registry p).ways (text.drop i) = (p.splits registry i (text.drop i)).map fun w =>
      (text.drop (i + w.1), slices text p.attributeNames w.2) := by
  induction p generalizing i with
  | empty => simp [ofPath, ways, Path.splits, slices]
  | literal lit next ih =>
      rw [ofPath, ways, Path.splits]
      by_cases hp : lit.toList <+: text.drop i
      · have hstrip : stripPrefix? lit.toList (text.drop i) =
            some (text.drop (i + lit.toList.length)) := by
          rw [stripPrefix?_eq_some_iff, ← List.drop_drop]
          exact (List.prefix_iff_eq_append.1 hp).symm
        rw [hstrip, if_pos hp, List.map_map, List.drop_drop]
        dsimp only
        rw [ih]
        simp only [Function.comp_def, Nat.add_assoc, Path.attributeNames]
      · have hstrip : stripPrefix? lit.toList (text.drop i) = none := by
          rw [Option.eq_none_iff_forall_ne_some]
          intro rest hrest
          exact hp ⟨rest, (stripPrefix?_eq_some_iff.1 hrest).symm⟩
        rw [hstrip, if_neg hp]
        rfl
  | attr name typeName next ih =>
      -- the machine tries every end and leaves out those that the type does not accept
      obtain ⟨htype, hgreedy⟩ := h.typeOf typeName
      rw [ofPath, ways, Path.splits, AttributeType.lengths_eq_filter_ends htype hgreedy,
        flatMap_filter, List.map_flatMap]
      congr 1
      funext n
      split
      · rw [List.drop_drop, ih, List.map_map, List.map_map]
        refine List.map_congr_left fun w _ => ?_
        simp only [Function.comp_apply, Path.attributeNames, slices_cons, Nat.add_assoc]
        rw [List.drop_take, Nat.add_sub_cancel_left]
      · rfl
  | optional inner ih =>
      rw [ofPath, ways, Path.splits, List.map_append, ih]
      simp [slices, Path.attributeNames]

variable {α : Type}

/-- **The first ways that take a whole path agree.** -/
theorem Route.captures?_eq_map_spans? {r : Route α} (h : r.registry.IsGreedy) (path : List Char) :
    r.captures? path = (r.spans? path).map (slices path r.path.attributeNames) := by
  have hways := Program.ways_eq_map_splits h r.path path 0
  rw [List.drop_zero] at hways
  rw [captures?, Program.captures?_eq_find?_ways, hways, spans?, List.find?_map, Option.map_map,
    Option.map_map]
  have hend : ∀ w ∈ r.path.splits r.registry 0 path,
      (path.drop (0 + w.1)).isEmpty = (w.1 == path.length) := by
    intro w hw
    have hle := Path.fst_le_of_mem_splits h.isSelfContained hw
    rw [Nat.zero_add, Bool.eq_iff_iff, List.isEmpty_iff, List.drop_eq_nil_iff, beq_iff_eq]
    omega
  exact congrArg (Option.map (slices path r.path.attributeNames ∘ (·.2))) (List.find?_congr hend)

/-- The answers of a table agree. -/
lemma RouteTable.sliceAnswers_eq_answers {t : RouteTable α}
    (h : ∀ r ∈ t.routes, r.registry.IsGreedy) (path : List Char) :
    t.sliceAnswers path = t.answers path :=
  List.map_congr_left fun r hr => by rw [Route.captures?_eq_map_spans? (h r hr)]

/-- Tables of built-in types have no anchors. -/
lemma RouteTable.isSelfContained_of_default {t : RouteTable α}
    (h : ∀ r ∈ t.routes, r.registry = TypeRegistry.default) : t.IsSelfContained :=
  fun r hr => h r hr ▸ TypeRegistry.isGreedy_default.isSelfContained

end HttpRouting
