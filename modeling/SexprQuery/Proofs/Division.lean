import Mathlib.Data.List.Forall2
import Mathlib.Data.Set.Card
import SexprQuery.Proofs.Walk
import SexprQuery.Search.Match

/-!
# Searching matches again

`divideAgain` searches every match of a list by itself, so a node inside two matches is
found once for each. What a row of patterns finds in this way are the ends of *trails*: a
trail has one path for each pattern, each leads to a node that satisfies its pattern, and
each goes on from the one before (`Node.IsTrail`).

* `Node.trailsFrom` — the trails below a node, found by recursion on the patterns;
* `Node.mem_trailsFrom` and `Node.trailsFrom_pairwise` — they are all the trails there
  are, in lexicographic order;
* `Node.foldl_divideAgain` — searching again and again gives their ends, in this order;
* `Node.encard_trails_eq_count` — so a path is found once for every trail that ends in it.
-/

namespace SexprQuery

/-! ## One search -/

/-- A search finds the nodes of the tree that satisfy the pattern. -/
theorem Node.mem_search (n : Node) (p : Pattern) (q : Path) (m : Node) :
    (q, m) ∈ n.search p ↔ n.at? q = some m ∧ p.satisfiesNode m = true := by
  rw [Node.search, List.mem_filter, n.mem_walk]

/-- It finds them in the order of their paths. -/
theorem Node.search_pairwise (n : Node) (p : Pattern) :
    (n.search p).Pairwise fun a b => a.1 < b.1 :=
  n.walk_pairwise.filter _

/-! ## Trails -/

/-- Paths of a tree, one for each pattern: each leads to a node that satisfies its pattern,
and each begins with the path before. -/
structure Node.IsTrail (n : Node) (ps : List Pattern) (trail : List Path) : Prop where
  matched : List.Forall₂ (fun p q => ∃ m, n.at? q = some m ∧ p.satisfiesNode m = true) ps trail
  nested : trail.IsChain (· <+: ·)

/-- The trails below a node at a path, as the searches come by them, each with the node
at its end. -/
def Node.trailsFrom : List Pattern → Path → Node → List (List Path × Node)
  | [], _, m => [([], m)]
  | p :: ps, q, m => (m.search p).flatMap fun found =>
    (trailsFrom ps (q ++ found.1) found.2).map fun t => ((q ++ found.1) :: t.1, t.2)

/-- They are the trails that begin below the path, and the last path leads to the node at
the end. -/
theorem Node.mem_trailsFrom {n m : Node} {q : Path} (ps : List Pattern) (hq : n.at? q = some m)
    (trail : List Path) (k : Node) :
    (trail, k) ∈ trailsFrom ps q m ↔
      List.Forall₂ (fun p r => ∃ m, n.at? r = some m ∧ p.satisfiesNode m = true) ps trail ∧
        (q :: trail).IsChain (· <+: ·) ∧ n.at? (trail.getLastD q) = some k := by
  induction ps generalizing q m trail with
  | nil =>
    rw [trailsFrom, List.mem_singleton, List.forall₂_nil_left_iff]
    constructor
    · intro h
      cases h
      exact ⟨rfl, List.isChain_singleton q, hq⟩
    · rintro ⟨rfl, -, hk⟩
      rw [List.getLastD_nil, hq] at hk
      cases hk
      rfl
  | cons p ps ih =>
    have hbelow : ∀ r, n.at? (q ++ r) = m.at? r := by
      intro r
      rw [Node.at?, Datum.at?_append]
      show (n.at? q).bind _ = _
      rw [hq]
      rfl
    rw [trailsFrom, List.mem_flatMap]
    constructor
    · rintro ⟨⟨r, m'⟩, hfound, ht⟩
      obtain ⟨hr, hp⟩ := (m.mem_search p r m').mp hfound
      rw [← hbelow] at hr
      obtain ⟨⟨rest, k'⟩, hrest, heq⟩ := List.mem_map.mp ht
      cases heq
      obtain ⟨hmatched, hnested, hk⟩ := (ih hr rest).mp hrest
      refine ⟨.cons ⟨m', hr, hp⟩ hmatched, ?_, ?_⟩
      · exact List.isChain_cons_cons.mpr ⟨List.prefix_append q r, hnested⟩
      · rwa [List.getLastD_cons]
    · rintro ⟨hmatched, hnested, hk⟩
      cases hmatched with
      | @cons _ s _ rest hs hrest =>
        obtain ⟨m', hm', hp⟩ := hs
        obtain ⟨⟨r, rfl⟩, hnested⟩ := List.isChain_cons_cons.mp hnested
        rw [List.getLastD_cons] at hk
        refine ⟨(r, m'), (m.mem_search p r m').mpr ⟨?_, hp⟩, ?_⟩
        · rwa [← hbelow]
        · exact List.mem_map.mpr ⟨(rest, k), (ih hm' rest).mpr ⟨hrest, hnested, hk⟩, rfl⟩

/-- They come in lexicographic order: an earlier find comes first, and behind one find
the trails go on in their order. -/
theorem Node.trailsFrom_pairwise (ps : List Pattern) (q : Path) (m : Node) :
    (trailsFrom ps q m).Pairwise fun s t => s.1 < t.1 := by
  induction ps generalizing q m with
  | nil => exact List.pairwise_singleton _ _
  | cons p ps ih =>
    rw [trailsFrom, List.pairwise_flatMap]
    constructor
    · intro found _
      rw [List.pairwise_map]
      refine (ih (q ++ found.1) found.2).imp ?_
      intro s t hst
      exact List.cons_lt_cons_iff.mpr (.inr ⟨rfl, hst⟩)
    · refine (m.search_pairwise p).imp ?_
      intro found other hlt s hs t ht
      obtain ⟨_, -, rfl⟩ := List.mem_map.mp hs
      obtain ⟨_, -, rfl⟩ := List.mem_map.mp ht
      exact List.cons_lt_cons_iff.mpr (.inl (List.append_left_lt hlt))

/-! ## Searching again and again -/

theorem foldl_divideAgain_flatMap (ps : List Pattern) (ms : List Match) :
    ps.foldl divideAgain ms = ms.flatMap fun m => ps.foldl divideAgain [m] := by
  induction ps generalizing ms with
  | nil => simp
  | cons p ps ih =>
    rw [List.foldl_cons, ih, divideAgain, List.flatMap_assoc]
    congr 1
    funext m
    rw [List.foldl_cons, ih (divideAgain [m] p), divideAgain, List.flatMap_singleton]

/-- Searching from one match gives the ends of the trails below it. -/
theorem Node.foldl_divideAgain (ps : List Pattern) (q : Path) (m : Node) :
    ps.foldl divideAgain [Match.ofFound (q, m)] =
      (trailsFrom ps q m).map fun t => Match.ofFound (t.1.getLastD q, t.2) := by
  induction ps generalizing q m with
  | nil => rfl
  | cons p ps ih =>
    rw [List.foldl_cons, foldl_divideAgain_flatMap, divideAgain, List.flatMap_singleton,
      List.flatMap_map, trailsFrom, List.map_flatMap]
    congr 1
    funext found
    simp only [List.map_map, Function.comp_def, List.getLastD_cons]
    exact ih (q ++ found.1) found.2

/-- The matches of a first pattern, searched for a row of others in turn. -/
def Node.divideInTurn (n : Node) (p : Pattern) (ps : List Pattern) : List Match :=
  ps.foldl divideAgain (n.divide p)

theorem Node.divideInTurn_eq (n : Node) (p : Pattern) (ps : List Pattern) :
    n.divideInTurn p ps =
      (trailsFrom (p :: ps) [] n).map fun t => Match.ofFound (t.1.getLastD [], t.2) := by
  rw [← Node.foldl_divideAgain, List.foldl_cons, divideAgain, List.flatMap_singleton]
  rfl

/-- The trails from the root are all trails of the tree. -/
theorem Node.mem_trailsFrom_root (n : Node) (ps : List Pattern) (trail : List Path) (k : Node) :
    (trail, k) ∈ trailsFrom ps [] n ↔
      n.IsTrail ps trail ∧ n.at? (trail.getLastD []) = some k := by
  rw [Node.mem_trailsFrom ps (show n.at? [] = some n from rfl)]
  constructor
  · rintro ⟨hmatched, hnested, hk⟩
    exact ⟨⟨hmatched, hnested.tail⟩, hk⟩
  · rintro ⟨⟨hmatched, hnested⟩, hk⟩
    refine ⟨hmatched, ?_, hk⟩
    cases trail with
    | nil => exact List.isChain_singleton []
    | cons q rest => exact List.isChain_cons_cons.mpr ⟨List.nil_prefix, hnested⟩

/-- The last path of a trail leads to a node, as every path of it does. -/
theorem Node.IsTrail.exists_node {n : Node} {ps : List Pattern} {trail : List Path}
    (h : n.IsTrail ps trail) : ∃ k, n.at? (trail.getLastD []) = some k := by
  suffices hlast : ∀ q k, n.at? q = some k → ∃ k, n.at? (trail.getLastD q) = some k from
    hlast [] n rfl
  obtain ⟨hmatched, -⟩ := h
  induction hmatched with
  | nil => exact fun q k hq => ⟨k, hq⟩
  | cons hr _ ih =>
    intro _ _ _
    obtain ⟨m, hm, -⟩ := hr
    rw [List.getLastD_cons]
    exact ih _ m hm

/-- The trails of a tree, as the searches come by them. -/
def Node.trails (n : Node) (ps : List Pattern) : List (List Path) :=
  (trailsFrom ps [] n).map Prod.fst

theorem Node.mem_trails (n : Node) (ps : List Pattern) (trail : List Path) :
    trail ∈ n.trails ps ↔ n.IsTrail ps trail := by
  constructor
  · intro h
    obtain ⟨⟨_, k⟩, ht, rfl⟩ := List.mem_map.mp h
    exact ((n.mem_trailsFrom_root ps _ k).mp ht).1
  · intro h
    obtain ⟨k, hk⟩ := h.exists_node
    exact List.mem_map.mpr ⟨(trail, k), (n.mem_trailsFrom_root ps trail k).mpr ⟨h, hk⟩, rfl⟩

theorem Node.trails_pairwise (n : Node) (ps : List Pattern) :
    (n.trails ps).Pairwise (· < ·) :=
  List.pairwise_map.mpr (trailsFrom_pairwise ps [] n)

theorem Node.nodup_trails (n : Node) (ps : List Pattern) : (n.trails ps).Nodup := by
  refine (n.trails_pairwise ps).imp ?_
  rintro s _ hlt rfl
  exact List.lt_irrefl s hlt

/-! ## What is found -/

/-- The ends of the trails are found, in the order of the trails. -/
theorem Node.map_path_divideInTurn (n : Node) (p : Pattern) (ps : List Pattern) :
    (n.divideInTurn p ps).map (fun m => some m.path) =
      (n.trails (p :: ps)).map List.getLast? := by
  rw [n.divideInTurn_eq, trails, List.map_map, List.map_map]
  refine List.map_congr_left ?_
  rintro ⟨trail, k⟩ ht
  obtain ⟨⟨hmatched, -⟩, -⟩ := (n.mem_trailsFrom_root _ trail k).mp ht
  -- a trail of one pattern or more has an end
  cases hmatched with
  | @cons _ q _ rest =>
    show some ((q :: rest).getLastD []) = (q :: rest).getLast?
    rw [List.getLastD_cons, List.getLast?_cons, List.getLastD_eq_getLast?]

/-- A list without repetition counts how many of its elements a function takes to a value. -/
theorem encard_eq_count {α β : Type} [DecidableEq α] [BEq β] [LawfulBEq β] {l : List α}
    (h : l.Nodup) (f : α → β) (b : β) : {a | a ∈ l ∧ f a = b}.encard = (l.map f).count b := by
  have hset : {a | a ∈ l ∧ f a = b} = ((l.filter fun a => f a == b).toFinset : Set α) := by
    ext a
    simp
  rw [hset, Set.encard_coe_eq_coe_finsetCard, List.toFinset_card_of_nodup (h.filter _),
    ← List.countP_eq_length_filter, List.count, List.countP_map]
  rfl

/-- A path is found once for every trail that ends in it. -/
theorem Node.encard_trails_eq_count (n : Node) (p : Pattern) (ps : List Pattern) (q : Path) :
    {trail | n.IsTrail (p :: ps) trail ∧ trail.getLast? = some q}.encard =
      ((n.divideInTurn p ps).map Match.path).count q := by
  calc {trail | n.IsTrail (p :: ps) trail ∧ trail.getLast? = some q}.encard
      = {trail | trail ∈ n.trails (p :: ps) ∧ trail.getLast? = some q}.encard := by
        simp only [mem_trails]
    _ = ((n.trails (p :: ps)).map List.getLast?).count (some q) :=
        encard_eq_count (n.nodup_trails _) _ _
    _ = (((n.divideInTurn p ps).map Match.path).map some).count (some q) := by
        rw [← n.map_path_divideInTurn, List.map_map]
        rfl
    _ = ((n.divideInTurn p ps).map Match.path).count q := by
        rw [List.count_map_of_injective _ some (Option.some_injective Path)]

/-- What is found at a path stands there. -/
theorem Node.at?_of_mem_divideInTurn {n : Node} {p : Pattern} {ps : List Pattern} {m : Match}
    (h : m ∈ n.divideInTurn p ps) : n.at? m.path = some m.node := by
  rw [n.divideInTurn_eq] at h
  obtain ⟨⟨trail, k⟩, ht, rfl⟩ := List.mem_map.mp h
  exact ((n.mem_trailsFrom_root _ trail k).mp ht).2

/-- **Searching again.** What a row of patterns finds, each in the matches of the one
before, are the ends of the trails of the tree, in the lexicographic order of the trails.
So a path is found exactly once for every trail that ends in it, and each match stands at
the path it comes with. -/
theorem Node.divide_eq_trails (n : Node) (p : Pattern) (ps : List Pattern) :
    ∃ trails : List (List Path),
      (∀ trail, trail ∈ trails ↔ n.IsTrail (p :: ps) trail) ∧
      trails.Pairwise (· < ·) ∧
      (n.divideInTurn p ps).map (fun m => some m.path) = trails.map List.getLast? ∧
      (∀ q, {trail | n.IsTrail (p :: ps) trail ∧ trail.getLast? = some q}.encard =
        ((n.divideInTurn p ps).map Match.path).count q) ∧
      ∀ m ∈ n.divideInTurn p ps, n.at? m.path = some m.node :=
  ⟨n.trails (p :: ps), n.mem_trails _, n.trails_pairwise _, n.map_path_divideInTurn p ps,
    n.encard_trails_eq_count p ps, fun _ hm => at?_of_mem_divideInTurn hm⟩

/-- Two trails end in the inner list, since the first pattern matches both lists. -/
example :
    let anyList : Pattern := .shape [.remaining]
    let n : Node := ⟨none, [.list none [.sym "x"]]⟩
    (n.divideInTurn anyList [anyList]).map Match.path = [[], [0], [0]] := by
  decide +kernel

end SexprQuery
