/-
The levels of a path, and which of them the URI with some values has.

* `Path.Piece`, `Path.pieces`: literals and attributes, each with the number of optional rests
  around it;
* `Path.reach`: the greatest depth of an attribute that has a value;
* `Path.written`: the pieces that are no deeper than that;
* `Path.uriPart_eq_writeAll`: these are the pieces that are written, one after the other;
* `Path.uri_eq_ok_iff`, `Path.exists_of_uri_eq_error`: so they decide whether there is a URI, which
  text it has, and which attribute is at fault if there is none;
* `Path.uri_congr`: values of other names make no difference;
* `Path.uri_exact`: these results in one statement.

A path has at most one optional rest, so a level is written only after all the levels around it.
What is written ends with the level of the deepest value: every optional rest up to there holds
this value, and none behind it holds any.
-/
import HttpRouting.Proofs.Path.Uri

namespace HttpRouting

/-! ### Values -/

namespace Values

/-- **The value of a name is the last one given.** -/
lemma get?_eq_some_iff {values : Values} {name value : String} :
    values.get? name = some value ↔
      ∃ before after, values = before ++ (name, value) :: after ∧ name ∉ after.map (·.1) := by
  constructor
  · intro h
    induction values with
    | nil => exact nomatch h
    | cons entry values ih =>
        rw [get?_cons] at h
        cases hrest : get? values name with
        | some v =>
            rw [hrest] at h
            cases h
            obtain ⟨before, after, rfl, hafter⟩ := ih hrest
            exact ⟨entry :: before, after, rfl, hafter⟩
        | none =>
            rw [hrest, Option.none_or, Option.ite_none_right_eq_some] at h
            obtain ⟨hname, he⟩ := h
            obtain rfl := beq_iff_eq.1 hname
            cases he
            refine ⟨[], values, rfl, fun hmem => ?_⟩
            obtain ⟨e, he, hname⟩ := List.mem_map.1 hmem
            rw [get?, Option.map_eq_none_iff, List.find?_eq_none] at hrest
            exact hrest e (List.mem_reverse.2 he) (beq_iff_eq.2 hname)
  · rintro ⟨before, after, rfl, hafter⟩
    induction before with
    | nil => rw [List.nil_append, get?_cons, get?_eq_none hafter, Option.none_or, beq_self_eq_true,
        if_pos rfl]
    | cons entry before ih => rw [List.cons_append, get?_cons, ih, Option.some_or]

end Values

namespace Path

/-! ### Pieces -/

/-- A literal or an attribute of a path by itself. -/
inductive Piece where
  | literal (text : String)
  | attr (name : String) (typeName : Option String)
deriving DecidableEq, Repr

namespace Piece

/-- Whether a piece is an attribute that has a value. -/
def isValued (values : Values) : Piece → Bool
  | literal _ => false
  | attr name _ => (values.get? name).isSome

/-- What is written for a piece of the path with the given definition. -/
def write (registry : TypeRegistry) (values : Values) (definition : String) :
    Piece → Except UriError String
  | literal text => .ok text
  | attr name typeName => valueOf registry values definition name typeName

/-- The text of a piece: a literal itself, or the value of an attribute. -/
def text (values : Values) : Piece → String
  | literal text => text
  | attr name _ => (values.get? name).getD ""

end Piece

/-- The pieces of a path in the order of its definition, each with its depth: the number of
optional rests around it, which is `depth` at the beginning. -/
def pieces (depth : Nat) : Path → List (Nat × Piece)
  | empty => []
  | literal text next => (depth, .literal text) :: next.pieces depth
  | attr name typeName next => (depth, .attr name typeName) :: next.pieces depth
  | optional inner => inner.pieces (depth + 1)

/-- The greatest depth of an attribute that has a value, among some pieces. -/
def deepest (values : Values) (ps : List (Nat × Piece)) : Nat :=
  ((ps.filter fun piece => piece.2.isValued values).map (·.1)).foldr max 0

/-- The greatest depth of an attribute that has a value, or zero if none has one. -/
def reach (values : Values) (p : Path) : Nat :=
  deepest values (p.pieces 0)

/-- The pieces up to some depth. -/
def upTo (depth : Nat) (ps : List (Nat × Piece)) : List Piece :=
  (ps.filter (·.1 ≤ depth)).map (·.2)

/-- The pieces that are no deeper than the deepest value. -/
def written (values : Values) (p : Path) : List Piece :=
  upTo (p.reach values) (p.pieces 0)

variable {registry : TypeRegistry} {values : Values} {definition : String}

/-- The depths of a path count from that of its beginning. -/
lemma le_of_mem_pieces {p : Path} {depth : Nat} {piece : Nat × Piece}
    (h : piece ∈ p.pieces depth) : depth ≤ piece.1 := by
  induction p generalizing depth with
  | empty => exact nomatch h
  | literal text next ih | attr name typeName next ih =>
      rcases List.mem_cons.1 h with rfl | h
      · exact Nat.le_refl _
      · exact ih h
  | optional inner ih => exact Nat.le_of_succ_le (ih h)

/-- A path has a value if one of its pieces has one. -/
lemma hasValue_eq_any (depth : Nat) (p : Path) :
    p.hasValue values = (p.pieces depth).any fun piece => piece.2.isValued values := by
  induction p generalizing depth with
  | empty => rfl
  | literal text next ih => exact (ih depth).trans (Bool.false_or _).symm
  | attr name typeName next ih => exact congrArg (_ || ·) (ih depth)
  | optional inner ih => exact ih (depth + 1)

/-! ### The deepest value -/

lemma deepest_cons (piece : Nat × Piece) (ps : List (Nat × Piece)) :
    deepest values (piece :: ps) =
      if piece.2.isValued values then max piece.1 (deepest values ps) else deepest values ps := by
  rw [deepest, List.filter_cons]
  split <;> rfl

lemma le_deepest {ps : List (Nat × Piece)} {piece : Nat × Piece} (h : piece ∈ ps)
    (hvalue : piece.2.isValued values = true) : piece.1 ≤ deepest values ps := by
  induction ps with
  | nil => exact nomatch h
  | cons first ps ih =>
      rw [deepest_cons]
      rcases List.mem_cons.1 h with rfl | h
      · rw [if_pos hvalue]
        exact Nat.le_max_left ..
      · have hle := ih h
        split <;> omega

lemma deepest_eq_zero {ps : List (Nat × Piece)}
    (h : (ps.any fun piece => piece.2.isValued values) = false) : deepest values ps = 0 := by
  have hnone : ps.filter (fun piece => piece.2.isValued values) = [] :=
    List.filter_eq_nil_iff.2 fun piece hpiece => by simpa using List.any_eq_false.1 h piece hpiece
  rw [deepest, hnone]
  rfl

/-! ### What is written -/

/-- A piece that is not too deep is written. -/
lemma upTo_cons_of_le {limit depth : Nat} {piece : Piece} {ps : List (Nat × Piece)}
    (h : depth ≤ limit) : upTo limit ((depth, piece) :: ps) = piece :: upTo limit ps := by
  rw [upTo, List.filter_cons_of_pos (by simpa using h)]
  rfl

/-- What is too deep is not. -/
lemma upTo_eq_nil {limit : Nat} {ps : List (Nat × Piece)} (h : ∀ piece ∈ ps, limit < piece.1) :
    upTo limit ps = [] := by
  rw [upTo, List.map_eq_nil_iff, List.filter_eq_nil_iff]
  intro piece hpiece
  have hlt := h piece hpiece
  simpa using hlt

/-- What is written for some pieces, one after the other. -/
def writeAll (registry : TypeRegistry) (values : Values) (definition : String)
    (ps : List Piece) : Except UriError String :=
  (ps.mapM (Piece.write registry values definition)).map String.join

lemma writeAll_cons (piece : Piece) (ps : List Piece) :
    writeAll registry values definition (piece :: ps) =
      piece.write registry values definition >>= fun first =>
        (writeAll registry values definition ps).map (first ++ ·) := by
  rw [writeAll, writeAll, List.mapM_cons]
  cases piece.write registry values definition with
  | error e => rfl
  | ok first =>
      cases ps.mapM (Piece.write registry values definition) with
      | error e => rfl
      | ok others => exact congrArg Except.ok String.join_cons

/-- **The pieces up to the deepest value are written**, in the order of the definition. -/
theorem uriPart_eq_writeAll (depth : Nat) (p : Path) :
    p.uriPart registry values definition =
      writeAll registry values definition
        (upTo (max depth (deepest values (p.pieces depth))) (p.pieces depth)) := by
  induction p generalizing depth with
  | empty => rfl
  | literal text next ih =>
      rw [pieces, deepest_cons, if_neg (by simp [Piece.isValued]),
        upTo_cons_of_le (Nat.le_max_left ..), writeAll_cons, ← ih depth, uriPart_literal]
      rfl
  | attr name typeName next ih =>
      rw [pieces, upTo_cons_of_le (Nat.le_max_left ..), writeAll_cons, uriPart, Piece.write]
      cases hvalue : valueOf registry values definition name typeName with
      | error e => rfl
      | ok value =>
          -- the attribute has a value, and is as deep as what comes next
          have hvalued : (Piece.attr name typeName).isValued values = true :=
            Option.isSome_of_eq_some (valueOf_eq_ok_iff.1 hvalue).1
          rw [deepest_cons, if_pos hvalued, ← Nat.max_assoc, Nat.max_self, ← ih depth]
          cases next.uriPart registry values definition <;> rfl
  | optional inner ih =>
      rw [uriPart, pieces]
      cases hvalue : inner.hasValue values with
      | true =>
          -- the value that makes the rest be written is in it, so at least one level deeper
          rw [hasValue_eq_any (depth + 1), List.any_eq_true] at hvalue
          obtain ⟨piece, hpiece, hvalued⟩ := hvalue
          have hreach : depth + 1 ≤ deepest values (inner.pieces (depth + 1)) :=
            Nat.le_trans (le_of_mem_pieces hpiece) (le_deepest hpiece hvalued)
          rw [if_pos rfl, ih (depth + 1), Nat.max_eq_right hreach,
            Nat.max_eq_right (Nat.le_of_succ_le hreach)]
      | false =>
          rw [hasValue_eq_any (depth + 1)] at hvalue
          rw [if_neg (by decide), deepest_eq_zero hvalue, Nat.max_zero,
            upTo_eq_nil fun piece hpiece => le_of_mem_pieces hpiece]
          rfl

/-! ### Success and failure -/

/-- A piece can be written: if it is an attribute, it has a value that its type accepts. -/
def Piece.IsWritable (registry : TypeRegistry) (values : Values) : Piece → Prop
  | literal _ => True
  | attr name typeName =>
    ∃ value, values.get? name = some value ∧
      (registry.typeOf typeName).accepts value.toList = true

/-- An attribute is at fault if it has no value, or one that its type does not accept. -/
def Piece.Faults (registry : TypeRegistry) (values : Values) (definition : String)
    (e : UriError) : Piece → Prop
  | literal _ => False
  | attr name typeName =>
    values.get? name = none ∧ e = .missingValue definition name ∨
      ∃ value, values.get? name = some value ∧
        (registry.typeOf typeName).accepts value.toList = false ∧
        e = .invalidValue name value (registry.typeOf typeName).name
          (registry.typeOf typeName).pattern

/-- What is written for a piece is its text. -/
lemma write_eq_ok_iff {piece : Piece} {u : String} :
    piece.write registry values definition = .ok u ↔
      piece.IsWritable registry values ∧ u = piece.text values := by
  cases piece with
  | literal text => simp [Piece.write, Piece.IsWritable, Piece.text, eq_comm]
  | attr name typeName =>
      rw [Piece.write, valueOf_eq_ok_iff, Piece.IsWritable, Piece.text]
      constructor
      · rintro ⟨hvalue, haccepts⟩
        exact ⟨⟨u, hvalue, haccepts⟩, by rw [hvalue, Option.getD_some]⟩
      · rintro ⟨⟨value, hvalue, haccepts⟩, rfl⟩
        rw [hvalue, Option.getD_some]
        exact ⟨rfl, haccepts⟩

lemma write_eq_error_iff {piece : Piece} {e : UriError} :
    piece.write registry values definition = .error e ↔
      piece.Faults registry values definition e := by
  cases piece with
  | literal text => exact ⟨fun h => (nomatch h), False.elim⟩
  | attr name typeName =>
      rw [Piece.write, valueOf, Piece.Faults]
      cases values.get? name with
      | none =>
          constructor
          · intro h
            cases h
            exact .inl ⟨rfl, rfl⟩
          · rintro (⟨-, rfl⟩ | ⟨_, hvalue, -⟩)
            · rfl
            · cases hvalue
      | some value =>
          dsimp only
          constructor
          · intro h
            split at h
            · cases h
            · next haccepts =>
                cases h
                exact .inr ⟨value, rfl, Bool.eq_false_iff.2 haccepts, rfl⟩
          · rintro (⟨hvalue, -⟩ | ⟨_, hvalue, haccepts, rfl⟩)
            · cases hvalue
            · cases hvalue
              rw [haccepts, if_neg (by decide)]

/-- Pieces are written if each of them can be. -/
lemma writeAll_eq_ok_iff {ps : List Piece} {u : String} :
    writeAll registry values definition ps = .ok u ↔
      (∀ piece ∈ ps, piece.IsWritable registry values) ∧
        u = String.join (ps.map (Piece.text values)) := by
  induction ps generalizing u with
  | nil => simp [writeAll, Except.map, pure, Except.pure, eq_comm]
  | cons piece ps ih =>
      rw [writeAll_cons, bind_eq_ok_iff, List.forall_mem_cons, List.map_cons, String.join_cons]
      constructor
      · rintro ⟨first, hfirst, h⟩
        obtain ⟨others, hothers, rfl⟩ := map_eq_ok_iff.1 h
        obtain ⟨hpiece, rfl⟩ := write_eq_ok_iff.1 hfirst
        obtain ⟨hps, rfl⟩ := ih.1 hothers
        exact ⟨⟨hpiece, hps⟩, rfl⟩
      · rintro ⟨⟨hpiece, hps⟩, rfl⟩
        exact ⟨_, write_eq_ok_iff.2 ⟨hpiece, rfl⟩, map_eq_ok_iff.2 ⟨_, ih.2 ⟨hps, rfl⟩, rfl⟩⟩

/-- The first piece that is at fault is reported. -/
lemma exists_of_writeAll_eq_error {ps : List Piece} {e : UriError}
    (h : writeAll registry values definition ps = .error e) :
    ∃ before piece after, ps = before ++ piece :: after ∧
      (∀ b ∈ before, b.IsWritable registry values) ∧
      piece.Faults registry values definition e := by
  induction ps with
  | nil => exact nomatch h
  | cons piece ps ih =>
      rw [writeAll_cons] at h
      rcases bind_eq_error_iff.1 h with hpiece | ⟨first, hfirst, h⟩
      · exact ⟨[], piece, ps, rfl, List.forall_mem_nil _, write_eq_error_iff.1 hpiece⟩
      · obtain ⟨before, culprit, after, rfl, hbefore, hfaults⟩ := ih (map_eq_error_iff.1 h)
        exact ⟨piece :: before, culprit, after, rfl,
          List.forall_mem_cons.2 ⟨(write_eq_ok_iff.1 hfirst).1, hbefore⟩, hfaults⟩

/-! ### URIs -/

lemma mem_written_iff {p : Path} {piece : Piece} :
    piece ∈ p.written values ↔ ∃ depth ≤ p.reach values, (depth, piece) ∈ p.pieces 0 := by
  simp only [written, upTo, List.mem_map, List.mem_filter, decide_eq_true_eq]
  constructor
  · rintro ⟨⟨depth, piece⟩, ⟨hmem, hle⟩, rfl⟩
    exact ⟨depth, hle, hmem⟩
  · rintro ⟨depth, hle, hmem⟩
    exact ⟨(depth, piece), ⟨hmem, hle⟩, rfl⟩

/-- An attribute that has a value is not too deep. -/
lemma mem_written_of_isValued {p : Path} {depth : Nat} {piece : Piece}
    (h : (depth, piece) ∈ p.pieces 0) (hvalue : piece.isValued values = true) :
    piece ∈ p.written values :=
  mem_written_iff.2 ⟨depth, le_deepest h hvalue, h⟩

/-- The URI of a path is the prefix and what is written. -/
lemma uri_eq_writeAll (pathPrefix : String) (p : Path) :
    p.uri registry values pathPrefix =
      (writeAll registry values p.render (p.written values)).map (pathPrefix ++ ·) := by
  rw [uri, uriPart_eq_writeAll 0, Nat.zero_max]
  rfl

/-- **There is a URI exactly if what is not too deep can be written**, and then this is its
text. -/
theorem uri_eq_ok_iff {pathPrefix u : String} {p : Path} :
    p.uri registry values pathPrefix = .ok u ↔
      (∀ piece ∈ p.written values, piece.IsWritable registry values) ∧
        u = pathPrefix ++ String.join ((p.written values).map (Piece.text values)) := by
  rw [uri_eq_writeAll, map_eq_ok_iff]
  constructor
  · rintro ⟨rest, hrest, rfl⟩
    obtain ⟨hall, rfl⟩ := writeAll_eq_ok_iff.1 hrest
    exact ⟨hall, rfl⟩
  · rintro ⟨hall, rfl⟩
    exact ⟨_, writeAll_eq_ok_iff.2 ⟨hall, rfl⟩, rfl⟩

/-- **The first attribute at fault is reported**, among those that are not too deep. -/
theorem exists_of_uri_eq_error {pathPrefix : String} {p : Path} {e : UriError}
    (h : p.uri registry values pathPrefix = .error e) :
    ∃ before piece after, p.written values = before ++ piece :: after ∧
      (∀ b ∈ before, b.IsWritable registry values) ∧
      piece.Faults registry values p.render e := by
  rw [uri_eq_writeAll] at h
  exact exists_of_writeAll_eq_error (map_eq_error_iff.1 h)

/-- Values of other names make no difference to what is written. -/
lemma uriPart_congr {values' : Values} {p : Path}
    (h : ∀ name ∈ p.attributeNames, values'.get? name = values.get? name) :
    p.uriPart registry values' definition = p.uriPart registry values definition := by
  induction p with
  | empty => rfl
  | literal text next ih => rw [uriPart_literal, uriPart_literal, ih h]
  | attr name typeName next ih =>
      obtain ⟨hname, hnext⟩ := List.forall_mem_cons.1 h
      rw [uriPart, uriPart, ih hnext, valueOf, valueOf, hname]
  | optional inner ih =>
      have hvalue : inner.hasValue values' = inner.hasValue values := by
        rw [Bool.eq_iff_iff, hasValue, hasValue, List.any_eq_true, List.any_eq_true]
        exact exists_congr fun name => and_congr_right fun hname => by rw [h name hname]
      rw [uriPart, uriPart, ih h, hvalue]

/-- **Values of other names make no difference.** -/
theorem uri_congr {values' : Values} {pathPrefix : String} {p : Path}
    (h : ∀ name ∈ p.attributeNames, values'.get? name = values.get? name) :
    p.uri registry values' pathPrefix = p.uri registry values pathPrefix := by
  rw [uri, uri, uriPart_congr h]

/-- Whether the pieces can be written is a question about the attributes among them. -/
lemma forall_written_iff {p : Path} :
    (∀ piece ∈ p.written values, piece.IsWritable registry values) ↔
      ∀ depth name typeName, (depth, .attr name typeName) ∈ p.pieces 0 → depth ≤ p.reach values →
        ∃ value, values.get? name = some value ∧
          (registry.typeOf typeName).accepts value.toList = true := by
  constructor
  · intro h depth name typeName hmem hle
    exact h _ (mem_written_iff.2 ⟨depth, hle, hmem⟩)
  · intro h piece hpiece
    obtain ⟨depth, hle, hmem⟩ := mem_written_iff.1 hpiece
    cases piece with
    | literal text => trivial
    | attr name typeName => exact h depth name typeName hmem hle

/-- **Writing a URI, exactly.** With the depth of an attribute as the number of optional rests
around it, let `p.reach values` be the greatest depth of an attribute that has a value.

* There is a URI if and only if every attribute up to this depth has a value that its type accepts.
* It is the prefix and the literals and values up to this depth in the order of the definition, and
  no attribute that has a value is left out.
* Otherwise the first attribute up to this depth that has no such value is reported, as missing or
  as invalid.
* Values of names that are not attributes make no difference.
* The value of a name is the last one given. -/
theorem uri_exact (registry : TypeRegistry) (values : Values) (pathPrefix : String) (p : Path) :
    ((∃ u, p.uri registry values pathPrefix = .ok u) ↔
      ∀ depth name typeName, (depth, .attr name typeName) ∈ p.pieces 0 → depth ≤ p.reach values →
        ∃ value, values.get? name = some value ∧
          (registry.typeOf typeName).accepts value.toList = true) ∧
    (∀ u, p.uri registry values pathPrefix = .ok u →
      u = pathPrefix ++ String.join ((p.written values).map (Piece.text values)) ∧
      ∀ depth name typeName, (depth, .attr name typeName) ∈ p.pieces 0 →
        (values.get? name).isSome = true → .attr name typeName ∈ p.written values) ∧
    (∀ e, p.uri registry values pathPrefix = .error e →
      ∃ before name typeName after,
        p.written values = before ++ .attr name typeName :: after ∧
        (∀ n t, .attr n t ∈ before → ∃ value, values.get? n = some value ∧
          (registry.typeOf t).accepts value.toList = true) ∧
        (values.get? name = none ∧ e = .missingValue p.render name ∨
          ∃ value, values.get? name = some value ∧
            (registry.typeOf typeName).accepts value.toList = false ∧
            e = .invalidValue name value (registry.typeOf typeName).name
              (registry.typeOf typeName).pattern)) ∧
    (∀ values' : Values, (∀ name ∈ p.attributeNames, values'.get? name = values.get? name) →
      p.uri registry values' pathPrefix = p.uri registry values pathPrefix) ∧
    ∀ name value, values.get? name = some value ↔
      ∃ before after, values = before ++ (name, value) :: after ∧ name ∉ after.map (·.1) := by
  refine ⟨?success, ?text, ?fault, fun _ => uri_congr, fun _ _ => Values.get?_eq_some_iff⟩
  case success =>
    rw [← forall_written_iff]
    exact ⟨fun ⟨u, h⟩ => (uri_eq_ok_iff.1 h).1, fun h => ⟨_, uri_eq_ok_iff.2 ⟨h, rfl⟩⟩⟩
  case text =>
    intro u h
    exact ⟨(uri_eq_ok_iff.1 h).2, fun _ _ _ hmem hvalue => mem_written_of_isValued hmem hvalue⟩
  case fault =>
    intro e h
    obtain ⟨before, piece, after, hwritten, hbefore, hfaults⟩ := exists_of_uri_eq_error h
    cases piece with
    | literal text => exact hfaults.elim
    | attr name typeName =>
        exact ⟨before, name, typeName, after, hwritten, fun n t hmem => hbefore _ hmem, hfaults⟩

/-- A value two levels deep asks for the one between, and for the literals of both levels. -/
example :
    let p := literal "/a" (optional (literal "/b" (optional (literal "/c" (attr "d" none empty)))))
    p.reach [("d", "1")] = 2 ∧
      p.written [("d", "1")] =
        [.literal "/a", .literal "/b", .literal "/c", .attr "d" none] ∧
      p.written [("e", "1")] = [.literal "/a"] := by
  decide

end Path

end HttpRouting
