/-
From the marks of a run back to the values of attributes.

* `slices`: the values at some spans of a text;
* `Path.derives_of_mem_splits`: a path stands for what it takes, with these values;
* `captureAll_marksOf`: the values that the marks of a path give to its attributes;
* `Route.spans?`: the spans of the first way in which a route takes a whole path;
* `RouteTable.sliceAnswers`: the answer that these give for each route;
* `pathRun_atEnd`: the notation of a path runs in this way;
* `subject_inj`: a path and a method are known from the text that they make;
* `pathRun_leafRun`: so does the notation of a route in a path that a method follows.

No type can take the braces between a path and a method and leave a method behind, because no method
holds a brace.
-/
import HttpRouting.Proofs.Matching.Answers
import HttpRouting.Proofs.Matching.Notation

namespace HttpRouting

/-! ### Values -/

/-- The values of attributes at spans of a text. -/
def slices (text : List Char) (names : List String) (spans : List Span) : Captures :=
  (names.zip spans).map fun e => (e.1, String.ofList ((text.take e.2.2).drop e.2.1))

/-- The value of the first attribute comes before the others. -/
lemma slices_cons (text : List Char) (name : String) (names : List String) (s : Span)
    (spans : List Span) :
    slices text (name :: names) (s :: spans) =
      (name, String.ofList ((text.take s.2).drop s.1)) :: slices text names spans :=
  rfl

/-- Values do not depend on what follows them. -/
lemma slices_append {text : List Char} {spans : List Span} (h : ∀ s ∈ spans, s.2 ≤ text.length)
    (tail : List Char) (names : List String) :
    slices (text ++ tail) names spans = slices text names spans := by
  refine List.map_congr_left fun e he => ?_
  rw [List.take_append_of_le_length (h e.2 (List.of_mem_zip he).2)]

/-- The name of the group that a mark is about. -/
def Mark.name : Mark → String
  | opened name _ | closed name _ => name

namespace Pattern.Match

variable {text : List Char} {marks others : List Mark} {name : String}

/-- Later marks of other groups do not matter to a group. -/
lemma group?_append (h : ∀ mark ∈ others, mark.name ≠ name) :
    (Match.mk text (marks ++ others)).group? name = (Match.mk text marks).group? name := by
  have hopened : (Match.mk text (marks ++ others)).openedAt? name =
      (Match.mk text marks).openedAt? name := by
    rw [openedAt?, openedAt?, List.reverse_append, List.findSome?_append,
      List.findSome?_eq_none_iff.2, Option.none_or]
    intro mark hmark
    have hne := h mark (List.mem_reverse.1 hmark)
    cases mark with
    | opened n i => exact if_neg hne
    | closed n i => rfl
  have hclosed : (Match.mk text (marks ++ others)).closedAt? name =
      (Match.mk text marks).closedAt? name := by
    rw [closedAt?, closedAt?, List.reverse_append, List.findSome?_append,
      List.findSome?_eq_none_iff.2, Option.none_or]
    intro mark hmark
    have hne := h mark (List.mem_reverse.1 hmark)
    cases mark with
    | opened n i => rfl
    | closed n i => exact if_neg hne
  rw [group?, group?, hopened, hclosed]

/-- A group without marks took no part. -/
lemma group?_eq_none (h : ∀ mark ∈ marks, mark.name ≠ name) :
    (Match.mk text marks).group? name = none := by
  rw [← List.nil_append marks, group?_append h]
  rfl

/-- The last marks of a group tell what it matched. -/
lemma group?_append_span (s : Span) :
    (Match.mk text (marks ++ [.opened name s.1, .closed name s.2])).group? name =
      some ((text.take s.2).drop s.1) := by
  simp [group?, openedAt?, closedAt?]

end Pattern.Match

/-- The marks of attributes are about the groups with their numbers. -/
lemma exists_name_of_mem_marksOf {n : Nat} {spans : List Span} {mark : Mark}
    (h : mark ∈ marksOf n spans) : ∃ i, n ≤ i ∧ mark.name = groupName i := by
  induction spans generalizing n with
  | nil => exact nomatch h
  | cons s spans ih =>
      rcases List.mem_cons.1 h with rfl | h
      · exact ⟨n, Nat.le_refl n, rfl⟩
      · rcases List.mem_cons.1 h with rfl | h
        · exact ⟨n, Nat.le_refl n, rfl⟩
        · obtain ⟨i, hi, hname⟩ := ih h
          exact ⟨i, by omega, hname⟩

lemma captureAll_cons (m : Pattern.Match) (name group : String) (bindings : List Binding) :
    captureAll m ((name, group) :: bindings) =
      ((m.group? group).map fun v => (name, String.ofList v)).toList ++ captureAll m bindings := by
  cases h : m.group? group <;> simp [captureAll, h]

/-- **The marks of a path give its attributes the values at their spans.** The groups of other
attributes have smaller numbers, and what comes later is about other groups. -/
theorem captureAll_marksOf (text : List Char) (names : List String) (spans : List Span) (n : Nat)
    (before after : List Mark)
    (hbefore : ∀ mark ∈ before, ∀ i, n ≤ i → mark.name ≠ groupName i)
    (hafter : ∀ mark ∈ after, ∀ i, mark.name ≠ groupName i) :
    captureAll ⟨text, before ++ marksOf n spans ++ after⟩
      ((names.zipIdx n).map fun e => (e.1, groupName e.2)) = slices text names spans := by
  induction names generalizing n spans before with
  | nil => rfl
  | cons name names ih =>
      rw [List.zipIdx_cons, List.map_cons, captureAll_cons]
      cases spans with
      | nil =>
          have hnone : (Pattern.Match.mk text (before ++ marksOf n [] ++ after)).group?
              (groupName n) = none := by
            refine Pattern.Match.group?_eq_none fun mark hmark => ?_
            rw [marksOf, List.append_nil] at hmark
            rcases List.mem_append.1 hmark with hm | hm
            · exact hbefore mark hm n (Nat.le_refl n)
            · exact hafter mark hm n
          have hrest := ih [] (n + 1) before fun mark hm i hi => hbefore mark hm i (by omega)
          rw [hnone]
          exact hrest.trans (by simp [slices])
      | cons s spans =>
          -- the group of the attribute is the last one before the other attributes
          have hmarks : before ++ marksOf n (s :: spans) ++ after =
              before ++ [.opened (groupName n) s.1, .closed (groupName n) s.2] ++
                marksOf (n + 1) spans ++ after := by
            simp [marksOf]
          have hothers : ∀ mark ∈ marksOf (n + 1) spans ++ after, mark.name ≠ groupName n := by
            intro mark hmark
            rcases List.mem_append.1 hmark with hm | hm
            · obtain ⟨i, hi, hname⟩ := exists_name_of_mem_marksOf hm
              rw [hname]
              exact fun he => absurd (groupName_inj he) (by omega)
            · exact hafter mark hm n
          have hrest := ih spans (n + 1)
            (before ++ [.opened (groupName n) s.1, .closed (groupName n) s.2]) fun mark hm i hi => by
              rcases List.mem_append.1 hm with hm | hm
              · exact hbefore mark hm i (by omega)
              · have hname : mark.name = groupName n := by
                  simp only [List.mem_cons, List.not_mem_nil, or_false] at hm
                  rcases hm with rfl | rfl <;> rfl
                rw [hname]
                exact fun he => absurd (groupName_inj he) (by omega)
          rw [hmarks, hrest, List.append_assoc, Pattern.Match.group?_append hothers,
            Pattern.Match.group?_append_span]
          rfl

/-- **A path stands for a text that it takes up to the end**, with the values at the spans of its
attributes. -/
theorem Path.derives_of_mem_splits {registry : TypeRegistry} (h : registry.IsSelfContained)
    {p : Path} {text : List Char} {i : Nat} {w : Nat × List Span}
    (hw : w ∈ p.splits registry i (text.drop i)) (hend : i + w.1 = text.length) :
    p.Derives registry (text.drop i) (slices text p.attributeNames w.2) := by
  induction p generalizing i w with
  | empty =>
      obtain rfl := List.mem_singleton.1 hw
      have hrest : text.drop i = [] := List.drop_eq_nil_of_le (Nat.le_of_eq hend.symm)
      rw [hrest]
      exact .empty
  | literal lit next ih =>
      rw [splits] at hw
      split at hw
      · next hp =>
          obtain ⟨v, hv, rfl⟩ := List.mem_map.1 hw
          rw [List.drop_drop] at hv
          have hrest := ih hv ((Nat.add_assoc _ _ _).trans hend)
          rw [← List.drop_drop] at hrest
          have hliteral : Derives registry (literal lit next) _ _ := .literal hrest
          rw [List.prefix_iff_eq_append.1 hp] at hliteral
          exact hliteral
      · cases hw
  | attr name typeName next ih =>
      obtain ⟨n, hn, hw⟩ := List.mem_flatMap.1 hw
      obtain ⟨v, hv, rfl⟩ := List.mem_map.1 hw
      have htype := h.typeOf typeName
      -- the value ends where the text of what follows begins
      rw [List.drop_drop] at hv
      have hrest := ih hv ((Nat.add_assoc _ _ _).trans hend)
      rw [← List.drop_drop] at hrest
      have hattr : Derives registry (attr name typeName next) _ _ :=
        .attr ((htype.accepts_take_iff (htype.le_length hn)).2 hn) hrest
      rw [List.take_append_drop] at hattr
      rwa [attributeNames, slices_cons, List.drop_take, Nat.add_sub_cancel_left]
  | optional inner ih =>
      rcases List.mem_append.1 hw with hw | hw
      · exact .taken (ih hw hend)
      · obtain rfl := List.mem_singleton.1 hw
        have hrest : text.drop i = [] := List.drop_eq_nil_of_le (Nat.le_of_eq hend.symm)
        rw [hrest, slices, List.zip_nil_right]
        exact .skipped

/-! ### Routes -/

variable {α : Type}

/-- The spans of the first way in which a route takes a whole path. -/
def Route.spans? (r : Route α) (path : List Char) : Option (List Span) :=
  ((r.path.splits r.registry 0 path).find? (·.1 == path.length)).map (·.2)

/-- The answer that these spans give for each route. -/
def RouteTable.sliceAnswers (t : RouteTable α) (path : List Char) : Answers :=
  t.routes.map fun r =>
    (r.method, (r.spans? path).map (slices path r.path.attributeNames))

/-- The patterns of all types of all routes are ones on their own. -/
def RouteTable.StandsAlone (t : RouteTable α) : Prop :=
  ∀ r ∈ t.routes, r.registry.StandsAlone

instance (t : RouteTable α) : Decidable t.StandsAlone :=
  inferInstanceAs (Decidable (∀ r ∈ t.routes, r.registry.StandsAlone))

/-- The patterns of the types that the routes use are ones on their own. -/
def RouteTable.TypesStandAlone (t : RouteTable α) : Prop :=
  ∀ r ∈ t.routes, r.path.TypesStandAlone r.registry

lemma RouteTable.StandsAlone.typesStandAlone {t : RouteTable α} (h : t.StandsAlone) :
    t.TypesStandAlone :=
  fun r hr => r.path.typesStandAlone (h r hr)

/-- The patterns of all types of all routes are ones on their own, without anchors. -/
def RouteTable.IsSelfContained (t : RouteTable α) : Prop :=
  ∀ r ∈ t.routes, r.registry.IsSelfContained

instance (t : RouteTable α) : Decidable t.IsSelfContained :=
  inferInstanceAs (Decidable (∀ r ∈ t.routes, r.registry.IsSelfContained))

lemma RouteTable.IsSelfContained.standsAlone {t : RouteTable α} (h : t.IsSelfContained) :
    t.StandsAlone :=
  fun r hr => (h r hr).standsAlone

variable {r : Route α} {path : List Char}

/-- The values are parts of the path. -/
lemma Route.le_of_spans? (h : r.registry.IsSelfContained) {spans : List Span}
    (hs : r.spans? path = some spans) : ∀ s ∈ spans, s.2 ≤ path.length := by
  obtain ⟨w, hw, rfl⟩ := Option.map_eq_some_iff.1 hs
  intro s hmem
  have hle := Path.snd_le_of_mem_splits h (List.mem_of_find?_eq_some hw) s hmem
  rwa [Nat.zero_add] at hle

/-- The path of the route stands for the whole path, with the values at the spans. -/
lemma Route.derives_of_spans? (h : r.registry.IsSelfContained) {spans : List Span}
    (hs : r.spans? path = some spans) :
    r.path.Derives r.registry path (slices path r.path.attributeNames spans) := by
  obtain ⟨w, hw, rfl⟩ := Option.map_eq_some_iff.1 hs
  have hend : 0 + w.1 = path.length := by simpa using List.find?_some hw
  have hmem : w ∈ r.path.splits r.registry 0 (path.drop 0) := List.mem_of_find?_eq_some hw
  exact Path.derives_of_mem_splits h hmem hend

/-- There are spans exactly if the route takes the path. -/
lemma Route.spans?_isSome_iff (h : r.registry.IsSelfContained) :
    (r.spans? path).isSome ↔ ∃ c, r.path.Derives r.registry path c := by
  constructor
  · intro hs
    obtain ⟨spans, hs⟩ := Option.isSome_iff_exists.1 hs
    exact ⟨_, derives_of_spans? h hs⟩
  · rintro ⟨c, hc⟩
    obtain ⟨s, hs⟩ := hc.exists_mem_splits h 0
    rw [spans?, Option.isSome_map, List.find?_isSome]
    exact ⟨_, hs, beq_self_eq_true _⟩

/-- **The notation of a path runs in the first way that takes the whole text.** -/
theorem pathRun_atEnd (h : r.registry.IsSelfContained) (n : Nat) :
    pathRun r.registry r.path n atEnd (.ofText path) = (r.spans? path).map (marksOf n) := by
  have hend : ∀ w ∈ r.path.splits r.registry 0 path,
      (atEnd ((Spot.ofText path).move w.1)).map (marksOf n w.2 ++ ·) =
        if w.1 == path.length then some (marksOf n w.2) else none := by
    intro w hw
    have hle := Path.fst_le_of_mem_splits h hw
    have hiff : (path.drop w.1).isEmpty = (w.1 == path.length) := by
      rw [Bool.eq_iff_iff, List.isEmpty_iff, List.drop_eq_nil_iff, beq_iff_eq]
      omega
    rw [atEnd, Spot.rest_move, Spot.ofText, hiff]
    split <;> simp
  have hrun := findSome?_congr hend
  rw [findSome?_ite] at hrun
  rw [pathRun_eq_findSome? h, Route.spans?, Option.map_map]
  exact hrun

/-! ### Routes that a method follows -/

/-- What follows the path of a request: the braces and the method. -/
lemma subject_eq (path method : List Char) : subject path method = path ++ (separator ++ method) :=
  List.append_assoc _ _ _

/-- No text but the method and the braces before it ends in the method of a request. -/
lemma append_subject_eq_iff {cs : List Char} {m m' : Method} :
    cs ++ (separator ++ m'.name.toList) = separator ++ m.name.toList ↔ cs = [] ∧ m = m' := by
  constructor
  · intro h
    match cs with
    | [] =>
        rw [List.nil_append] at h
        exact ⟨rfl, Method.eq_of_name_eq (String.toList_inj.1 (List.append_cancel_left h)).symm⟩
    | [c] => simp [separator] at h
    | c :: d :: cs =>
        have hmem : '{' ∈ m.name.toList := by
          simp only [separator, List.cons_append, List.nil_append, List.cons.injEq] at h
          rw [← h.2.2]
          simp
        exact absurd rfl (Method.not_brace hmem).1
  · rintro ⟨rfl, rfl⟩
    rfl

/-- **A request can be read in one way only**, whatever the path holds. -/
theorem subject_inj {cs ds : List Char} {m m' : Method} :
    subject cs m.name.toList = subject ds m'.name.toList ↔ cs = ds ∧ m = m' := by
  rw [subject_eq, subject_eq]
  constructor
  · intro h
    -- what one path has more than the other stands in front of braces and a method
    rcases List.append_eq_append_iff.1 h with ⟨as, rfl, he⟩ | ⟨as, rfl, he⟩
    · obtain ⟨rfl, rfl⟩ := append_subject_eq_iff.1 he.symm
      exact ⟨(List.append_nil cs).symm, rfl⟩
    · obtain ⟨rfl, rfl⟩ := append_subject_eq_iff.1 he.symm
      exact ⟨List.append_nil ds, rfl⟩
  · rintro ⟨rfl, rfl⟩
    rfl

/-- A rest of the method and the braces is not all of another one. -/
lemma drop_separator_ne {n : Nat} (hn : 0 < n) (m m' : Method) :
    (separator ++ m'.name.toList).drop n ≠ separator ++ m.name.toList := by
  intro h
  match n with
  | 1 => simp [separator] at h
  | n + 2 =>
      have hmem : '{' ∈ m'.name.toList := by
        have hdrop : m'.name.toList.drop n = separator ++ m.name.toList := h
        refine List.mem_of_mem_drop (i := n) ?_
        rw [hdrop]
        exact List.mem_cons_self
      exact absurd rfl (Method.not_brace hmem).1

/-- The mark of a route, at some position. -/
def markAt (index position : Nat) : List Mark :=
  [.opened (markName index) position, .closed (markName index) position]

/-- The notation of the end of a route takes its method, and nothing else. -/
lemma leafRun_atEnd (m : Method) (index : Nat) (p : Spot) :
    leafRun m index atEnd p =
      if p.rest = separator ++ m.name.toList then
        some (markAt index (p.index + (separator ++ m.name.toList).length))
      else none := by
  rw [leafRun, literalRun]
  by_cases hp : separator ++ m.name.toList <+: p.rest
  · rw [if_pos hp, closing, atEnd, Spot.index_move hp.length_le, Spot.rest_move]
    obtain ⟨after, hafter⟩ := hp
    rw [← hafter, List.drop_left]
    cases after with
    | nil => simp [markAt]
    | cons c after => simp
  · have hne : p.rest ≠ separator ++ m.name.toList := fun he => hp (he ▸ List.prefix_rfl)
    rw [if_neg hp, if_neg hne]

/-- The end of a route takes its own method, right after the whole path. -/
lemma leafRun_move_subject (path : List Char) (m m' : Method) (index n : Nat) :
    leafRun m index atEnd ((Spot.ofText (subject path m'.name.toList)).move n) =
      if m = m' ∧ n == path.length then
        some (markAt index (path.length + (separator ++ m.name.toList).length))
      else none := by
  rw [leafRun_atEnd, Spot.rest_move, Spot.ofText, subject_eq]
  rcases Nat.lt_or_ge path.length n with hlt | hle
  · have hne : ¬ (m = m' ∧ n == path.length) := fun h =>
      absurd (beq_iff_eq.1 h.2) (Nat.ne_of_gt hlt)
    rw [List.drop_append, List.drop_eq_nil_of_le (Nat.le_of_lt hlt), List.nil_append,
      if_neg (drop_separator_ne (by omega) m m'), if_neg hne]
  · have hindex : ((Spot.ofText (path ++ (separator ++ m'.name.toList))).move n).index = n := by
      rw [Spot.index_move (by rw [Spot.ofText, List.length_append]; omega), Spot.ofText,
        Nat.zero_add]
    have hiff : (path.drop n = [] ∧ m = m') ↔ (m = m' ∧ n == path.length) := by
      rw [List.drop_eq_nil_iff, and_comm, beq_iff_eq]
      exact and_congr_right fun _ => ⟨fun h => Nat.le_antisymm hle h, fun h => Nat.le_of_eq h.symm⟩
    rw [List.drop_append_of_le_length hle, ← Spot.ofText, hindex]
    simp only [append_subject_eq_iff, hiff]
    split
    · next h => rw [beq_iff_eq.1 h.2]
    · rfl

/-- **The notation of a route runs in the first way that takes the whole path**, if the method is
its own. -/
theorem pathRun_leafRun (h : r.registry.IsSelfContained) (path : List Char) (n index : Nat)
    (m : Method) :
    ∃ position, pathRun r.registry r.path n (leafRun r.method index atEnd)
        (.ofText (subject path m.name.toList)) =
      if r.method = m then (r.spans? path).map (marksOf n · ++ markAt index position)
      else none := by
  refine ⟨path.length + (separator ++ r.method.name.toList).length, ?_⟩
  have hwhole : pathRun r.registry r.path n (leafRun r.method index atEnd)
      (.ofText (subject path m.name.toList)) =
      (r.path.splits r.registry 0 (path ++ (separator ++ m.name.toList))).findSome? fun w =>
        if r.method = m ∧ w.1 == path.length then
          some (marksOf n w.2 ++ markAt index
            (path.length + (separator ++ r.method.name.toList).length))
        else none := by
    rw [pathRun_eq_findSome? h, Spot.ofText, subject_eq]
    refine findSome?_congr fun w _ => ?_
    rw [← subject_eq, ← Spot.ofText, leafRun_move_subject]
    split <;> rfl
  -- a way that takes more than the path leaves no method
  have hbeyond : ∀ w ∈ r.path.splits r.registry 0 (path ++ (separator ++ m.name.toList)),
      decide (w.1 ≤ path.length) = false →
      (if r.method = m ∧ w.1 == path.length then
        some (marksOf n w.2 ++ markAt index
          (path.length + (separator ++ r.method.name.toList).length))
      else none) = none := fun w _ hw =>
    if_neg fun he => absurd (Nat.le_of_eq (beq_iff_eq.1 he.2)) (of_decide_eq_false hw)
  rw [hwhole, ← findSome?_filter hbeyond, Path.filter_splits_append h]
  by_cases hm : r.method = m
  · simp only [hm, true_and, if_true]
    rw [findSome?_ite, Route.spans?, Option.map_map]
    rfl
  · simp only [hm, false_and, if_false]
    exact List.findSome?_eq_none_iff.2 fun _ _ => rfl

end HttpRouting
