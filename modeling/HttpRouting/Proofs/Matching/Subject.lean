/-
The text of a request: a path, two braces and a method.

* `suffix_subject_iff`: it ends in braces and a method exactly if that is the method of the request;
* `exists_ofText?_leafNotation`: the notation of the end of a route is one on its own;
* `match?_leafNotation`: it matches the braces and the method of the route, and nothing else;
* `match?_leafNotation_subject`: in a request, it is met right after the path;
* `subject_unambiguous`: the path and the method of a request are known from its text.

The path may hold braces and methods itself. That no method holds a brace decides all overlaps.
-/
import HttpRouting.Proofs.Matching.Balance
import HttpRouting.Proofs.Matching.Reports

namespace HttpRouting

/-! ### Ends of requests -/

/-- A request ends in the braces and its own method only. -/
lemma suffix_subject_iff {m m' : Method} {path : List Char} :
    separator ++ m.name.toList <:+ subject path m'.name.toList ↔ m = m' := by
  refine ⟨eq_of_suffix_subject, ?_⟩
  rintro rfl
  exact ⟨path, (subject_eq path _).symm⟩

/-! ### Ends of routes -/

/-- The notation of the end of a route is one on its own. -/
lemma exists_ofText?_leafNotation (m : Method) (index : Nat) :
    ∃ q, Phrase.ofText? (anchored (leafNotation m index)) = some q := by
  obtain ⟨q, hq, hdepth, hnames⟩ := (balanced_leafNotation m index).exists_ofTokens?
  refine ⟨q, Option.filter_eq_some_iff.2 ⟨hq, ?_⟩⟩
  have hle : q.depth ≤ maxNesting := hdepth.trans (by decide)
  simp [Phrase.isSound, hle, hnames]

/-- It matches the braces and the method of the route, and nothing else. -/
lemma match?_leafNotation {m : Method} {index : Nat} {q : Phrase}
    (hq : Phrase.ofText? (anchored (leafNotation m index)) = some q) (text : List Char) :
    ((Pattern.ofPhrase q).match? text).isSome = true ↔ text = separator ++ m.name.toList := by
  rw [match?_ofPhrase_anchored (means_leafNotation m index) hq, leafRun_atEnd, Option.isSome_map]
  have hrest : (Spot.ofText text).rest = text := rfl
  rw [hrest]
  split
  · next h => simp [h]
  · next h => simp [h]

/-- **The end of a route is met right after the path**: once some of a request has been read, it
takes what is left exactly if that was all of the path, and the method is the one of the route. -/
theorem match?_leafNotation_subject {m m' : Method} {index : Nat} {q : Phrase}
    (hq : Phrase.ofText? (anchored (leafNotation m' index)) = some q) {path read left : List Char}
    (h : read ++ left = subject path m.name.toList) :
    ((Pattern.ofPhrase q).match? left).isSome = true ↔ read = path ∧ m = m' := by
  rw [match?_leafNotation hq]
  constructor
  · rintro rfl
    rw [← subject_eq] at h
    obtain ⟨hpath, hmethod⟩ := subject_inj.1 h
    exact ⟨hpath, hmethod.symm⟩
  · rintro ⟨rfl, rfl⟩
    rw [subject_eq] at h
    exact List.append_cancel_left h

/-- **A request is unambiguous.** Whatever its path holds, it ends in two braces and a method
exactly if that is its method, and the path is what comes before. So the path and the method are
known from the text. The end of a route takes what is left of the text exactly if all of the path
has been read, and the method is the one of the route. -/
theorem subject_unambiguous {method method' : String} (h : isMethodToken method = true)
    (h' : isMethodToken method' = true) (path : String) :
    (separator ++ method'.toList <:+ subject path.toList method.toList ↔ method = method') ∧
      (∀ before, before ++ (separator ++ method'.toList) = subject path.toList method.toList →
        before = path.toList) ∧
      (∀ path' : String, subject path.toList method.toList = subject path'.toList method'.toList ↔
        path = path' ∧ method = method') ∧
      ∀ index, ∃ leaf, Phrase.ofText? (anchored (leafNotation ⟨method', h'⟩ index)) = some leaf ∧
        ∀ read left, read ++ left = subject path.toList method.toList →
          (((Pattern.ofPhrase leaf).match? left).isSome = true ↔
            read = path.toList ∧ method = method') := by
  obtain ⟨m, rfl⟩ : ∃ m : Method, m.name = method := ⟨⟨method, h⟩, rfl⟩
  obtain ⟨m', rfl⟩ : ∃ m : Method, m.name = method' := ⟨⟨method', h'⟩, rfl⟩
  have hname : m.name = m'.name ↔ m = m' := ⟨Method.eq_of_name_eq, congrArg Method.name⟩
  simp only [hname]
  refine ⟨suffix_subject_iff.trans eq_comm, fun before hbefore => ?_, fun path' => ?_,
    fun index => ?_⟩
  · rw [← subject_eq] at hbefore
    exact (subject_inj.1 hbefore).1
  · rw [subject_inj, String.toList_inj]
  · obtain ⟨leaf, hleaf⟩ := exists_ofText?_leafNotation m' index
    exact ⟨leaf, hleaf, fun read left hread => match?_leafNotation_subject hleaf hread⟩

/-- The path of `GET` may itself end like a request, and `ET` is the end of its method. -/
theorem subject_unambiguous_nested :
    isMethodToken "GET" = true ∧ isMethodToken "ET" = true ∧
      ¬ (separator ++ "ET".toList <:+ subject "/a\x7b\x7dET\x7b\x7d".toList "GET".toList) ∧
      ∀ path' : String, subject "/a\x7b\x7dET\x7b\x7d".toList "GET".toList ≠
        subject path'.toList "ET".toList := by
  have hget : isMethodToken "GET" = true := by decide
  have het : isMethodToken "ET" = true := by decide
  obtain ⟨hsuffix, -, hinj, -⟩ := subject_unambiguous hget het "/a\x7b\x7dET\x7b\x7d"
  refine ⟨hget, het, fun h => ?_, fun path' he => ?_⟩
  · exact absurd (hsuffix.1 h) (by decide)
  · exact absurd ((hinj path').1 he).2 (by decide)

end HttpRouting
