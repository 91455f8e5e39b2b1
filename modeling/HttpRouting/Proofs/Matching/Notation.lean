/-
How the notations of paths and of ends of routes run.

* `groupName_inj`, `markName_inj`, `groupName_ne_markName`: the names of groups are distinct;
* `marksOf`: what the groups of attributes report;
* `pathRun`, `means_pathNotation`: the notation of a path runs part by part;
* `pathRun_eq_findSome?`: without anchors, it runs through the ways in which the path takes up a text;
* `leafRun`, `means_leafNotation`: the notation of an end takes the method, and marks the route.
-/
import HttpRouting.Matching.Notation
import HttpRouting.Proofs.Path.Splits

namespace HttpRouting

/-! ### Names of groups -/

lemma toList_toString (n : Nat) : (toString n).toList = Nat.toDigits 10 n := by
  rw [Nat.toString_eq_repr, Nat.toList_repr]

lemma toString_inj {m n : Nat} (h : toString m = toString n) : m = n := by
  have hdigits := congrArg String.toList h
  rw [toList_toString, toList_toString] at hdigits
  rw [← Nat.ofDigitChars_ten_toDigits (n := m), hdigits, Nat.ofDigitChars_ten_toDigits]

lemma groupName_inj {m n : Nat} (h : groupName m = groupName n) : m = n := by
  have htail : "g".toList ++ (toString m).toList = "g".toList ++ (toString n).toList := by
    rw [← String.toList_append, ← String.toList_append]
    exact congrArg String.toList h
  exact toString_inj (String.toList_inj.1 (List.append_cancel_left htail))

lemma markName_inj {m n : Nat} (h : markName m = markName n) : m = n := by
  have htail : "m".toList ++ (toString m).toList = "m".toList ++ (toString n).toList := by
    rw [← String.toList_append, ← String.toList_append]
    exact congrArg String.toList h
  exact toString_inj (String.toList_inj.1 (List.append_cancel_left htail))

lemma groupName_ne_markName (m n : Nat) : groupName m ≠ markName n := by
  intro h
  have hhead := congrArg (fun s : String => s.toList.head?) h
  simp [groupName, markName] at hhead

/-- The opening of a group with a name. -/
def nameOpening (name : String) : List Char :=
  ['(', '?', 'P', '<'] ++ name.toList ++ ['>']

/-- A letter and digits make a name. -/
lemma opens_nameOpening {c : Char} {name : String} {n : Nat} (hc : Token.isNameStart c = true)
    (hname : name.toList = c :: (toString n).toList) :
    Opens (nameOpening name) (.named name) := by
  have hchar : ∀ d ∈ name.toList, Token.isNameChar d = true := by
    intro d hd
    rw [hname, toList_toString] at hd
    rcases List.mem_cons.1 hd with rfl | hd
    · rw [Token.isNameStart, Bool.or_eq_true] at hc
      rcases hc with hc | hc <;> simp only [Token.isNameChar, hc, Bool.true_or, Bool.or_true]
    · have hdigit : d.isDigit = true := Nat.isDigit_of_mem_toDigits (by decide) (by decide) hd
      have hle : d.val ≤ 57 := by
        rw [Char.isDigit, Bool.and_eq_true] at hdigit
        exact of_decide_eq_true hdigit.2
      have hnumeral := Text.isNumeral_of_isDigit (UInt32.lt_of_le_of_lt hle (by decide)) hdigit
      simp only [Token.isNameChar, hnumeral, Bool.or_true]
  have hstop : ∀ d ∈ name.toList, (d != '>') = true := by
    intro d hd
    have hd := hchar d hd
    rw [bne_iff_ne]
    rintro rfl
    revert hd
    decide +kernel
  refine ⟨by simp [Plain, nameOpening], fun rest => ?_⟩
  have htext : nameOpening name ++ rest =
      '(' :: '?' :: 'P' :: '<' :: (name.toList ++ '>' :: rest) := by
    simp [nameOpening]
  have htake : (name.toList ++ '>' :: rest).takeWhile (· != '>') = name.toList := by
    rw [List.takeWhile_append_of_pos hstop, List.takeWhile_cons_of_neg (by simp), List.append_nil]
  have hdrop : (name.toList ++ '>' :: rest).dropWhile (· != '>') = '>' :: rest := by
    rw [List.dropWhile_append_of_pos hstop, List.dropWhile_cons_of_neg (by simp)]
  have hvalid : (name.toList.head?.any Token.isNameStart && name.toList.all Token.isNameChar) =
      true := by
    rw [Bool.and_eq_true]
    exact ⟨by rw [hname]; exact hc, List.all_eq_true.2 hchar⟩
  rw [htext]
  change Token.readName? (name.toList ++ '>' :: rest) = _
  rw [Token.readName?, htake, hdrop]
  simp only [hvalid, if_true, String.ofList_toList]

lemma opens_groupName (n : Nat) : Opens (nameOpening (groupName n)) (.named (groupName n)) :=
  opens_nameOpening (c := 'g') (n := n) (by decide +kernel) (by simp [groupName])

lemma opens_markName (n : Nat) : Opens (nameOpening (markName n)) (.named (markName n)) :=
  opens_nameOpening (c := 'm') (n := n) (by decide +kernel) (by simp [markName])

lemma namedGroup_eq (name : String) (body : List Char) :
    namedGroup name body = nameOpening name ++ body ++ [')'] := by
  have hopening : "(?P<".toList = ['(', '?', 'P', '<'] := rfl
  have hgroup : namedGroup name body = "(?P<".toList ++ name.toList ++ '>' :: body ++ [')'] := rfl
  rw [hgroup, hopening, nameOpening]
  simp

/-! ### Paths -/

/-- What the groups of attributes report. They take the numbers from `n` on. -/
def marksOf (n : Nat) : List Span → List Mark
  | [] => []
  | s :: spans =>
    .opened (groupName n) s.1 :: .closed (groupName n) s.2 :: marksOf (n + 1) spans

/-- How the notation of an attribute runs: like the pattern of its type, between the marks of its
group. -/
def attributeRun (type : AttributeType) (n : Nat) (k : Onward) : Onward := fun q =>
  (type.regex.run (closing (groupName n) k) q).map (.opened (groupName n) q.index :: ·)

/-- How the notation of a path runs. -/
def pathRun (registry : TypeRegistry) : Path → Nat → Onward → Onward
  | .empty, _, k => k
  | .literal text next, n, k => literalRun text.toList (pathRun registry next n k)
  | .attr _ typeName next, n, k =>
    attributeRun (registry.typeOf typeName) n (pathRun registry next (n + 1) k)
  | .optional inner, n, k => optionalRun (pathRun registry inner n) k

lemma means_attributeNotation {type : AttributeType} (h : type.StandsAlone) (n : Nat) :
    Means (attributeNotation type n) (attributeRun type n) := by
  rw [attributeNotation, namedGroup_eq]
  exact h.meansInside.named (opens_groupName n)

/-- **The notation of a path runs part by part.** -/
theorem means_pathNotation {registry : TypeRegistry} {p : Path} (h : p.TypesStandAlone registry)
    (n : Nat) : Means (pathNotation registry p n) (pathRun registry p n) := by
  induction p generalizing n with
  | empty => exact means_nil
  | literal text next ih => exact (means_literal text.toList).append (ih h n)
  | attr name typeName next ih =>
      obtain ⟨htype, hnext⟩ := h
      exact (means_attributeNotation htype n).append (ih hnext (n + 1))
  | optional inner ih => exact (ih h n).inside.optional

/-- **Without anchors, it runs through the ways in which the path takes up a text.** -/
theorem pathRun_eq_findSome? {registry : TypeRegistry} (h : registry.IsSelfContained) (p : Path)
    (n : Nat) (k : Onward) (q : Spot) :
    pathRun registry p n k q = (p.splits registry q.index q.rest).findSome? fun w =>
      (k (q.move w.1)).map (marksOf n w.2 ++ ·) := by
  induction p generalizing n q with
  | empty => simp [pathRun, Path.splits, marksOf, Spot.move]
  | literal text next ih =>
      rw [pathRun, Path.splits, literalRun]
      split
      · next hp =>
          rw [ih, Spot.index_move hp.length_le, Spot.rest_move, List.findSome?_map]
          simp only [Function.comp_def, Spot.move_move]
      · rfl
  | attr name typeName next ih =>
      have htype := h.typeOf typeName
      rw [pathRun, Path.splits, attributeRun, htype.follows, findSome?_flatMap,
        List.map_findSome?]
      refine findSome?_congr fun m hm => ?_
      rw [Function.comp_apply, closing, ih, List.findSome?_map, List.map_findSome?,
        List.map_findSome?, Spot.index_move (htype.le_length hm), Spot.rest_move]
      refine findSome?_congr fun w _ => ?_
      simp only [Function.comp_apply, Spot.move_move, Option.map_map]
      rfl
  | optional inner ih =>
      rw [pathRun, Path.splits, optionalRun, List.findSome?_append, ih]
      simp [marksOf, Spot.move]

/-! ### Ends of routes -/

/-- How the notation of the end of a route runs. -/
def leafRun (m : Method) (index : Nat) (k : Onward) : Onward :=
  literalRun (separator ++ m.name.toList) fun q =>
    (closing (markName index) k q).map (.opened (markName index) q.index :: ·)

lemma means_leafNotation (m : Method) (index : Nat) :
    Means (leafNotation m index) (leafRun m index) := by
  rw [leafNotation, ← escapeLiteral_append, namedGroup_eq]
  exact (means_literal _).append (means_nil.inside.named (opens_markName index))

end HttpRouting
