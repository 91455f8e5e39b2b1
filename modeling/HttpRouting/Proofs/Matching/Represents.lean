/-
What the patterns with marks of a table stand for.

* `MarkedRoute`: a route with its index and the number of its first group;
* `RouteTable.marked`: the routes of a table in this way;
* `MarkedPattern.Represents`: a pattern that tries the routes of a table in turn;
* `MarkedPattern.represents_ofTable?`: the pattern with the routes side by side does;
* `chainRun`: how the text of a way to a leaf runs;
* `Forest.IsFull`: below every branch there are leaves;
* `forestAlternatives_snd`: the groups of a forest are numbered like those of the ways to its
  leaves;
* `tries_forestAlternatives`: the texts of a forest try these ways in turn;
* `MarkedPattern.represents_ofForest?`: so does the pattern with the trees side by side.
-/
import HttpRouting.Matching.MarkedPattern
import HttpRouting.Proofs.Forest.Chains
import HttpRouting.Proofs.Matching.Spans

namespace HttpRouting

variable {α : Type}

/-! ### Marked routes -/

/-- A route with its index and the number of its first group. -/
structure MarkedRoute (α : Type) where
  route : Route α
  index : Nat
  number : Nat

namespace MarkedRoute

/-- The text of a route with its mark. -/
def text (x : MarkedRoute α) : List Char :=
  pathNotation x.route.registry x.route.path x.number ++ leafNotation x.route.method x.index

/-- How this text runs. -/
def run (x : MarkedRoute α) (k : Onward) : Onward :=
  pathRun x.route.registry x.route.path x.number (leafRun x.route.method x.index k)

/-- The groups of the attributes. -/
def bindings (x : MarkedRoute α) : List Binding :=
  pathBindings x.route.path x.number

lemma means_text {x : MarkedRoute α} (h : x.route.path.TypesStandAlone x.route.registry) :
    Means x.text x.run :=
  (means_pathNotation h x.number).append (means_leafNotation x.route.method x.index)

end MarkedRoute

/-- Routes with their marks, the first of which has the given index and number. -/
def markedFrom (index number : Nat) : List (Route α) → List (MarkedRoute α)
  | [] => []
  | r :: rs =>
    ⟨r, index, number⟩ :: markedFrom (index + 1) (number + r.path.attributeNames.length) rs

/-- The routes of a table with their marks. -/
def RouteTable.marked (t : RouteTable α) : List (MarkedRoute α) :=
  markedFrom 0 0 t.routes

section Marked

variable {index number : Nat} {rs : List (Route α)} {x : MarkedRoute α}

/-- The routes are those that were given. -/
lemma map_route_markedFrom : (markedFrom index number rs).map (·.route) = rs := by
  induction rs generalizing index number with
  | nil => rfl
  | cons r rs ih => rw [markedFrom, List.map_cons, ih]

lemma RouteTable.map_route_marked (t : RouteTable α) : t.marked.map (·.route) = t.routes :=
  map_route_markedFrom

/-- The indices count up. -/
lemma find?_markedFrom {i : Nat} (h : index ≤ i) :
    (markedFrom index number rs).find? (·.index == i) =
      (markedFrom index number rs)[i - index]? := by
  induction rs generalizing index number with
  | nil => rfl
  | cons r rs ih =>
      rw [markedFrom]
      rcases Nat.eq_or_lt_of_le h with rfl | hlt
      · simp
      · have hsub : i - index = i - (index + 1) + 1 := by omega
        rw [List.find?_cons_of_neg (by simp; omega), ih hlt, hsub, List.getElem?_cons_succ]

/-- A route is at its index. -/
lemma getElem?_index (h : x ∈ markedFrom index number rs) :
    index ≤ x.index ∧ (markedFrom index number rs)[x.index - index]? = some x := by
  induction rs generalizing index number with
  | nil => exact nomatch h
  | cons r rs ih =>
      rw [markedFrom] at h ⊢
      rcases List.mem_cons.1 h with rfl | h
      · simp
      · obtain ⟨hle, hx⟩ := ih h
        have hsub : x.index - index = x.index - (index + 1) + 1 := by omega
        exact ⟨by omega, by rw [hsub, List.getElem?_cons_succ, hx]⟩

/-- The texts of routes side by side, with the groups of their attributes. -/
lemma routeAlternatives_eq_map :
    routeAlternatives index number rs =
      (markedFrom index number rs).map fun x => (x.text, x.bindings) := by
  induction rs generalizing index number with
  | nil => rfl
  | cons r rs ih =>
      rw [routeAlternatives, ih, markedFrom, List.map_cons]
      rfl

/-- The texts of routes side by side try them in turn. -/
lemma tries_markedFrom (h : ∀ r ∈ rs, r.path.TypesStandAlone r.registry) :
    Tries ((markedFrom index number rs).map (·.text))
      ((markedFrom index number rs).map (·.run)) := by
  induction rs generalizing index number with
  | nil => exact .nil
  | cons r rs ih =>
      exact .cons_single (MarkedRoute.means_text (h r List.mem_cons_self))
        (ih fun r' hr => h r' (List.mem_cons_of_mem r hr))

end Marked

/-! ### Routes side by side -/

namespace MarkedPattern

/-- A pattern tries the routes of a table in turn, and knows the groups of their attributes. -/
structure Represents (p : MarkedPattern) (t : RouteTable α) : Prop where
  bindings : p.bindings = t.marked.map (·.bindings)
  methods : p.methods = t.methods
  match? : ∀ cs, (p.pattern?.bind fun e => e.2.match? cs) =
    (t.marked.findSome? fun x => x.run atEnd (.ofText cs)).map (⟨cs, ·⟩)

/-- The pattern with a body that tries the routes of a table. -/
lemma represents_ofBody? {t : RouteTable α} {body : Option (List Char)} {p : MarkedPattern}
    (hnone : body = none → t.routes = [])
    (hsome : ∀ cs ∈ body, Means cs fun k q => (t.marked.map (·.run)).findSome? fun f => f k q)
    (h : ofBody? body (t.marked.map (·.bindings)) t.methods = some p) : p.Represents t := by
  cases body with
  | none =>
      cases h
      refine ⟨rfl, rfl, fun cs => ?_⟩
      rw [RouteTable.marked, hnone rfl]
      rfl
  | some cs =>
      obtain ⟨q, hq, rfl⟩ := Option.map_eq_some_iff.1 h
      refine ⟨rfl, rfl, fun cs' => ?_⟩
      have hmatch := match?_anchored (hsome cs rfl) hq cs'
      rw [List.findSome?_map] at hmatch
      exact hmatch

/-- **The pattern with the routes side by side tries them in turn.** -/
theorem represents_ofTable? {t : RouteTable α} (htypes : t.TypesStandAlone) {p : MarkedPattern}
    (h : ofTable? t = some p) : p.Represents t := by
  have halternatives :
      routeAlternatives 0 0 t.routes = t.marked.map fun x => (x.text, x.bindings) :=
    routeAlternatives_eq_map
  rw [ofTable?, halternatives] at h
  simp only [List.map_map, List.isEmpty_map] at h
  refine represents_ofBody? (fun hbody => ?_) (fun cs hcs => ?_) h
  · by_contra hne
    obtain ⟨r, rs, hrs⟩ := List.exists_cons_of_ne_nil hne
    simp [RouteTable.marked, hrs, markedFrom] at hbody
  · have htries : Tries (t.marked.map (·.text)) (t.marked.map (·.run)) := tries_markedFrom htypes
    split at hcs
    · exact nomatch hcs
    · next hne =>
        cases hcs
        exact (htries.inside (by simpa using hne)).plain

end MarkedPattern

/-! ### Segments -/

/-- The patterns of the types of a segment are ones on their own. -/
def Segment.StandsAlone : Segment → Prop
  | literal _ => True
  | attr _ type => type.StandsAlone
  | optional inner registry => inner.TypesStandAlone registry

lemma Path.TypesStandAlone.ofPath {registry : TypeRegistry} {p : Path}
    (h : p.TypesStandAlone registry) : ∀ s ∈ Segment.ofPath registry p, s.StandsAlone := by
  induction p with
  | empty => exact fun s hs => nomatch hs
  | literal text next ih => exact List.forall_mem_cons.2 ⟨trivial, ih h⟩
  | attr name typeName next ih => exact List.forall_mem_cons.2 ⟨h.1, ih h.2⟩
  | optional inner ih => exact List.forall_mem_singleton.2 h

/-- How the text of a segment runs. -/
def segmentRun (n : Nat) : Segment → Onward → Onward
  | .literal text => literalRun text.toList
  | .attr _ type => attributeRun type n
  | .optional inner registry => optionalRun (pathRun registry inner n)

lemma means_segmentNotation {s : Segment} (h : s.StandsAlone) (n : Nat) :
    Means (segmentNotation n s) (segmentRun n s) := by
  cases s with
  | literal text => exact means_literal text.toList
  | attr name type => exact means_attributeNotation h n
  | optional inner registry => exact (means_pathNotation h n).inside.optional

/-- How the text of a way to a leaf runs. -/
def chainRun (index : Nat) (method : Method) : Nat → List Segment → Onward → Onward
  | _, [], k => leafRun method index k
  | n, s :: ss, k => segmentRun n s (chainRun index method (n + s.groupCount) ss k)

lemma means_chainNotation (index : Nat) (method : Method) {ss : List Segment}
    (h : ∀ s ∈ ss, s.StandsAlone) (n : Nat) :
    Means (chainNotation index method n ss) (chainRun index method n ss) := by
  induction ss generalizing n with
  | nil => exact means_leafNotation method index
  | cons s ss ih =>
      obtain ⟨hs, hss⟩ := List.forall_mem_cons.1 h
      exact (means_segmentNotation hs n).append (ih hss (n + s.groupCount))

section OfPath

variable {registry : TypeRegistry} (p : Path) (n : Nat)

/-- The text of the way to the leaf of a path runs like the text of the path. -/
lemma chainRun_ofPath (index : Nat) (method : Method) (k : Onward) :
    chainRun index method n (Segment.ofPath registry p) k =
      pathRun registry p n (leafRun method index k) := by
  induction p generalizing n with
  | empty => rfl
  | literal text next ih =>
      rw [Segment.ofPath, chainRun, ih]
      rfl
  | attr name typeName next ih =>
      rw [Segment.ofPath, chainRun, ih]
      rfl
  | optional inner ih => rfl

lemma groupTotal_ofPath : groupTotal (Segment.ofPath registry p) = p.attributeNames.length := by
  induction p with
  | empty => rfl
  | literal text next ih =>
      rw [Segment.ofPath, groupTotal, ih, Segment.groupCount, Nat.zero_add]
      rfl
  | attr name typeName next ih =>
      rw [Segment.ofPath, groupTotal, ih, Segment.groupCount, Nat.add_comm]
      rfl
  | optional inner ih => exact Nat.add_zero _

lemma chainBindings_ofPath : chainBindings n (Segment.ofPath registry p) = pathBindings p n := by
  induction p generalizing n with
  | empty => rfl
  | literal text next ih => exact ih n
  | attr name typeName next ih =>
      rw [Segment.ofPath, chainBindings, ih]
      rfl
  | optional inner ih => exact List.append_nil _

end OfPath

/-! ### Ways to leaves -/

/-- A way to a leaf, with the index and the method of its route and the number of its first
group. -/
structure MarkedChain where
  segments : List Segment
  index : Nat
  method : Method
  number : Nat

namespace MarkedChain

/-- How the text of a way to a leaf runs. -/
def run (c : MarkedChain) : Onward → Onward :=
  chainRun c.index c.method c.number c.segments

/-- The leaf with the groups of its attributes. -/
def bindings (c : MarkedChain) : Nat × List Binding :=
  (c.index, chainBindings c.number c.segments)

end MarkedChain

/-- How many groups the texts of several ways hold. -/
def groupsAlong : List (List Segment × Nat × Method) → Nat
  | [] => 0
  | (ss, _) :: cs => groupTotal ss + groupsAlong cs

/-- Ways to leaves with their numbers, the first of which is given. -/
def chainsFrom (number : Nat) : List (List Segment × Nat × Method) → List MarkedChain
  | [] => []
  | (ss, index, method) :: cs =>
    ⟨ss, index, method, number⟩ :: chainsFrom (number + groupTotal ss) cs

section Chains

variable {n : Nat} {cs ds : List (List Segment × Nat × Method)}

lemma chainsFrom_append :
    chainsFrom n (cs ++ ds) = chainsFrom n cs ++ chainsFrom (n + groupsAlong cs) ds := by
  induction cs generalizing n with
  | nil => rfl
  | cons c cs ih =>
      rw [List.cons_append, chainsFrom, ih, chainsFrom, groupsAlong, ← Nat.add_assoc,
        List.cons_append]

lemma groupsAlong_append : groupsAlong (cs ++ ds) = groupsAlong cs + groupsAlong ds := by
  induction cs with
  | nil => exact (Nat.zero_add _).symm
  | cons c cs ih => rw [List.cons_append, groupsAlong, ih, groupsAlong, Nat.add_assoc]

lemma chainsFrom_ne_nil (h : cs ≠ []) : chainsFrom n cs ≠ [] := by
  obtain ⟨c, cs, rfl⟩ := List.exists_cons_of_ne_nil h
  exact List.cons_ne_nil _ _

/-- A literal in front of several ways is written once, and holds no group. -/
lemma chainsFrom_literal (text : String) :
    chainsFrom n (cs.map fun (ss, e) => (.literal text :: ss, e)) =
      (chainsFrom n cs).map fun c => { c with segments := .literal text :: c.segments } := by
  induction cs generalizing n with
  | nil => rfl
  | cons c cs ih =>
      rw [List.map_cons, chainsFrom, ih, chainsFrom, List.map_cons, groupTotal, Segment.groupCount,
        Nat.zero_add]

lemma groupsAlong_literal (text : String) :
    groupsAlong (cs.map fun (ss, e) => (.literal text :: ss, e)) = groupsAlong cs := by
  induction cs with
  | nil => rfl
  | cons c cs ih =>
      rw [List.map_cons, groupsAlong, ih, groupsAlong, groupTotal, Segment.groupCount, Nat.zero_add]

/-- A literal in front of several runs is taken before they are tried. -/
lemma findSome?_literalRun (text : List Char) (fs : List (Onward → Onward)) (k : Onward)
    (p : Spot) :
    (fs.findSome? fun f => literalRun text (f k) p) =
      literalRun text (fun q => fs.findSome? fun f => f k q) p := by
  simp only [literalRun]
  split
  · rfl
  · exact List.findSome?_eq_none_iff.2 fun _ _ => rfl

/-- The groups of several ways are numbered one after the other. -/
lemma chainAlternatives_snd :
    (chainAlternatives n cs).2 = ((chainsFrom n cs).map (·.bindings), n + groupsAlong cs) := by
  induction cs generalizing n with
  | nil => rfl
  | cons c cs ih =>
      obtain ⟨hbindings, hnext⟩ := Prod.mk.inj (ih (n := n + groupTotal c.1))
      rw [chainAlternatives, chainsFrom, groupsAlong, List.map_cons, ← Nat.add_assoc]
      exact Prod.ext (congrArg (List.cons _) hbindings) hnext

/-- The texts of several ways try them in turn. -/
lemma tries_chainAlternatives (h : ∀ c ∈ cs, ∀ s ∈ c.1, s.StandsAlone) :
    Tries (chainAlternatives n cs).1 ((chainsFrom n cs).map (·.run)) := by
  induction cs generalizing n with
  | nil => exact .nil
  | cons c cs ih =>
      obtain ⟨hc, hcs⟩ := List.forall_mem_cons.1 h
      exact .cons_single (means_chainNotation c.2.1 c.2.2 hc n) (ih hcs)

end Chains

/-! ### Trees side by side -/

/-- The text of a branch, the groups of the leaves below, and the next number. -/
def branchAlternative (n : Nat) (s : Segment) (below : Forest) :
    List Char × List (Nat × List Binding) × Nat :=
  match s with
  | .literal text =>
    let inner := forestAlternatives n below
    (escapeLiteral text.toList ++ alternation inner.1, inner.2)
  | s =>
    let inner := chainAlternatives n (below.chains.map fun (ss, e) => (s :: ss, e))
    (alternation inner.1, inner.2)

/-- The text of a branch comes before those to its right. -/
lemma forestAlternatives_branch (n : Nat) (s : Segment) (below right : Forest) :
    forestAlternatives n (.branch s below right) =
      let part := branchAlternative n s below
      let rest := forestAlternatives part.2.2 right
      (part.1 :: rest.1, part.2.1 ++ rest.2.1, rest.2.2) := by
  cases s <;> rfl

/-- The groups below a branch are numbered one after the other. -/
lemma branchAlternative_snd {n : Nat} {s : Segment} {below : Forest}
    (hbelow : (forestAlternatives n below).2 =
      ((chainsFrom n below.chains).map (·.bindings), n + groupsAlong below.chains)) :
    (branchAlternative n s below).2 =
      ((chainsFrom n (below.chains.map fun (ss, e) => (s :: ss, e))).map (·.bindings),
        n + groupsAlong (below.chains.map fun (ss, e) => (s :: ss, e))) := by
  cases s with
  | literal text =>
      rw [chainsFrom_literal, groupsAlong_literal, List.map_map]
      exact hbelow
  | attr name type | optional inner registry => exact chainAlternatives_snd

/-- The groups of a forest are numbered like those of the ways to its leaves. -/
lemma forestAlternatives_snd (f : Forest) (n : Nat) :
    (forestAlternatives n f).2 =
      ((chainsFrom n f.chains).map (·.bindings), n + groupsAlong f.chains) := by
  induction f generalizing n with
  | empty => rfl
  | leaf index method right ih =>
      obtain ⟨hbindings, hnext⟩ := Prod.mk.inj (ih n)
      rw [Forest.chains, groupsAlong, groupTotal, Nat.zero_add]
      exact Prod.ext (congrArg (List.cons _) hbindings) hnext
  | branch s below right ihb ihr =>
      obtain ⟨hbelow, hnumber⟩ := Prod.mk.inj (branchAlternative_snd (s := s) (ihb n))
      -- the trees to the right go on with the number where the branch stops
      obtain ⟨hbindings, hnext⟩ := Prod.mk.inj (ihr (branchAlternative n s below).2.2)
      rw [forestAlternatives_branch, Forest.chains, chainsFrom_append, groupsAlong_append,
        List.map_append, ← Nat.add_assoc, ← hnumber]
      exact Prod.ext (congrArg₂ (· ++ ·) hbelow hbindings) hnext

/-- The text of a branch tries the ways to the leaves below in turn. -/
lemma means_branchAlternative {n : Nat} {s : Segment} {below : Forest} (hne : below.chains ≠ [])
    (h : ∀ c ∈ below.chains.map fun (ss, e) => (s :: ss, e), ∀ s ∈ c.1, s.StandsAlone)
    (hbelow : Tries (forestAlternatives n below).1 ((chainsFrom n below.chains).map (·.run))) :
    Means (branchAlternative n s below).1 fun k p =>
      ((chainsFrom n (below.chains.map fun (ss, e) => (s :: ss, e))).map (·.run)).findSome?
        fun f => f k p := by
  -- only a literal stands before what the trees below it make
  cases s with
  | literal text =>
      have halternation := hbelow.alternation
        (hbelow.ne_nil (by simpa using chainsFrom_ne_nil hne))
      rw [chainsFrom_literal, List.map_map]
      refine ((means_literal text.toList).append halternation).congr fun k q => ?_
      rw [← findSome?_literalRun, List.findSome?_map, List.findSome?_map]
      rfl
  | attr name type | optional inner registry =>
      have htries := tries_chainAlternatives (n := n) h
      refine htries.alternation (htries.ne_nil ?_)
      simpa using chainsFrom_ne_nil fun he => hne (List.map_eq_nil_iff.1 he)

/-- **The texts of a forest try the ways to its leaves in turn.** -/
theorem tries_forestAlternatives {f : Forest} (hf : f.IsFull)
    (h : ∀ c ∈ f.chains, ∀ s ∈ c.1, s.StandsAlone) (n : Nat) :
    Tries (forestAlternatives n f).1 ((chainsFrom n f.chains).map (·.run)) := by
  induction f generalizing n with
  | empty => exact .nil
  | leaf index method right ih =>
      exact .cons_single (means_leafNotation method index) (ih hf (List.forall_mem_cons.1 h).2 n)
  | branch s below right ihb ihr =>
      obtain ⟨hne, hfull, hright⟩ := hf
      obtain ⟨hs, hchains⟩ := List.forall_mem_append.1 h
      have hsegments : ∀ c ∈ below.chains, ∀ s ∈ c.1, s.StandsAlone := fun c hc =>
        (List.forall_mem_cons.1 (hs _ (List.mem_map_of_mem hc))).2
      have hmeans := means_branchAlternative hne hs (ihb hfull hsegments n)
      have htries := ihr hright hchains (branchAlternative n s below).2.2
      have hnumber := congrArg Prod.snd
        (branchAlternative_snd (s := s) (forestAlternatives_snd below n))
      rw [forestAlternatives_branch, Forest.chains, chainsFrom_append, List.map_append]
      dsimp only at hnumber ⊢
      rw [← hnumber]
      exact .cons hmeans htries

/-! ### The forest of a table -/

/-- The way to the leaf of a route. -/
def MarkedRoute.chain (x : MarkedRoute α) : MarkedChain :=
  ⟨Segment.ofPath x.route.registry x.route.path, x.index, x.route.method, x.number⟩

/-- The ways to the leaves of the forest of a table are its routes, with the same numbers. -/
lemma chainsFrom_zipIdx (index number : Nat) (rs : List (Route α)) :
    chainsFrom number ((rs.zipIdx index).map fun (r, i) =>
      (Segment.ofPath r.registry r.path, i, r.method)) =
      (markedFrom index number rs).map (·.chain) := by
  induction rs generalizing index number with
  | nil => rfl
  | cons r rs ih =>
      rw [List.zipIdx_cons, List.map_cons, chainsFrom, groupTotal_ofPath, ih, markedFrom]
      rfl

lemma chainsFrom_chains_ofTable (t : RouteTable α) :
    chainsFrom 0 (Forest.ofTable t).chains = t.marked.map (·.chain) := by
  rw [Forest.chains_ofTable, chainsFrom_zipIdx]
  rfl

lemma MarkedRoute.chain_run (x : MarkedRoute α) : x.chain.run = x.run :=
  funext fun k => chainRun_ofPath _ _ _ _ k

lemma chain_bindings (x : MarkedRoute α) : x.chain.bindings = (x.index, x.bindings) :=
  congrArg (x.index, ·) (chainBindings_ofPath _ _)

/-- The groups of routes in the order of their indices. -/
lemma bindingsByIndex_marked (t : RouteTable α) :
    bindingsByIndex t.size (t.marked.map fun x => (x.index, x.bindings)) =
      t.marked.map (·.bindings) := by
  have hlength : t.marked.length = t.size := by
    rw [RouteTable.size, ← t.map_route_marked, List.length_map]
  refine List.ext_getElem (by simp [bindingsByIndex, hlength]) fun i hi hi' => ?_
  rw [List.length_map] at hi'
  have hfind : t.marked.find? (·.index == i) = some t.marked[i] :=
    (find?_markedFrom (Nat.zero_le i)).trans (List.getElem?_eq_getElem hi')
  simp only [bindingsByIndex, List.getElem_map, List.getElem_range, List.find?_map]
  have hfind' : t.marked.find? ((fun e : Nat × List Binding => e.1 == i) ∘
      fun x => (x.index, x.bindings)) = some t.marked[i] := hfind
  rw [hfind']
  rfl

/-- The groups of the forest of a table are those of its routes. -/
lemma forestAlternatives_ofTable (t : RouteTable α) :
    (forestAlternatives 0 (Forest.ofTable t)).2.1 = t.marked.map fun x => (x.index, x.bindings) := by
  rw [forestAlternatives_snd, chainsFrom_chains_ofTable, List.map_map]
  exact List.map_congr_left fun x _ => chain_bindings x

namespace MarkedPattern

/-- **The pattern with the trees side by side tries the routes in turn.** -/
theorem represents_ofForest? {t : RouteTable α} (htypes : t.TypesStandAlone) {p : MarkedPattern}
    (h : ofForest? t (Forest.ofTable t) = some p) : p.Represents t := by
  have hsegments : ∀ c ∈ (Forest.ofTable t).chains, ∀ s ∈ c.1, s.StandsAlone := by
    intro c hc
    rw [Forest.chains_ofTable] at hc
    obtain ⟨⟨r, i⟩, hr, rfl⟩ := List.mem_map.1 hc
    exact (htypes r (List.fst_mem_of_mem_zipIdx hr)).ofPath
  have htries := tries_forestAlternatives (Forest.isFull_ofTable t) hsegments 0
  have hruns : t.marked.map (·.chain.run) = t.marked.map (·.run) :=
    List.map_congr_left fun x _ => x.chain_run
  rw [chainsFrom_chains_ofTable, List.map_map, Function.comp_def, hruns] at htries
  rw [ofForest?] at h
  dsimp only at h
  rw [forestAlternatives_ofTable, bindingsByIndex_marked] at h
  refine represents_ofBody? (fun hbody => ?_) (fun cs hcs => ?_) h
  · split at hbody
    · next he =>
        have hnil := List.map_eq_nil_iff.1 (htries.eq_nil (List.isEmpty_iff.1 he))
        rw [← t.map_route_marked, hnil, List.map_nil]
    · exact nomatch hbody
  · split at hcs
    · exact nomatch hcs
    · next hne =>
        cases hcs
        exact (htries.alternation fun he => hne (List.isEmpty_iff.2 he)).inside.plain

end MarkedPattern

end HttpRouting
