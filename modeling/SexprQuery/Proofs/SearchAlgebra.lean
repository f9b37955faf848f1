import SexprQuery.Proofs.Cursor
import SexprQuery.Proofs.Division

/-!
# Searches of combined patterns

Patterns are combined by `or`, `and` and `not`, and a chain on the left of `or` or `and`
grows instead of nesting. Whatever its form, a combined pattern is satisfied by what its
parts say (`Pattern.satisfies_or`, `Pattern.satisfies_and`). A search keeps the nodes of
the walk that pass a test, so on the paths that are found the three are union,
intersection and complement, and the order of the walk stays
(`Node.foundPaths_eq_filter`).
-/

namespace SexprQuery

namespace Pattern

/-! ## What combined patterns are satisfied by -/

theorem anySatisfied_eq (ps : List Pattern) (d : Datum) :
    anySatisfied ps d = ps.any fun p => p.satisfies d := by
  induction ps with
  | nil => rfl
  | cons p ps ih => rw [anySatisfied, ih, List.any_cons]

theorem allSatisfied_eq (ps : List Pattern) (d : Datum) :
    allSatisfied ps d = ps.all fun p => p.satisfies d := by
  induction ps with
  | nil => rfl
  | cons p ps ih => rw [allSatisfied, ih, List.all_cons]

/-- A chain that grows is satisfied as if it were nested. -/
theorem satisfies_or (p q : Pattern) (d : Datum) :
    (p.or q).satisfies d = (p.satisfies d || q.satisfies d) := by
  unfold Pattern.or
  split
  · next options q =>
    rw [satisfies, satisfies, anySatisfied_eq, anySatisfied_eq, List.any_append, List.any_cons,
      List.any_nil, Bool.or_false]
  · rw [satisfies, anySatisfied_eq, List.any_cons, List.any_cons, List.any_nil, Bool.or_false]

theorem satisfies_and (p q : Pattern) (d : Datum) :
    (p.and q).satisfies d = (p.satisfies d && q.satisfies d) := by
  unfold Pattern.and
  split
  · next required q =>
    rw [satisfies, satisfies, allSatisfied_eq, allSatisfied_eq, List.all_append, List.all_cons,
      List.all_nil, Bool.and_true]
  · rw [satisfies, allSatisfied_eq, List.all_cons, List.all_cons, List.all_nil, Bool.and_true]

end Pattern

namespace Node

/-! ## The paths of a search -/

/-- The paths of a tree, in pre-order. -/
def paths (n : Node) : List Path := n.walk.map Prod.fst

/-- The paths of the nodes that satisfy a pattern, in pre-order. -/
def foundPaths (n : Node) (p : Pattern) : List Path := (n.search p).map Prod.fst

/-- The path of a node is found if the node satisfies the pattern. -/
theorem mem_foundPaths_of_at? {n m : Node} {r : Path} (h : n.at? r = some m) (p : Pattern) :
    r ∈ n.foundPaths p ↔ p.satisfiesNode m = true := by
  rw [foundPaths, List.mem_map]
  constructor
  · rintro ⟨⟨_, k⟩, hk, rfl⟩
    obtain ⟨hat, hsat⟩ := (n.mem_search p _ k).mp hk
    cases hat.symm.trans h
    exact hsat
  · intro hsat
    exact ⟨(r, m), (n.mem_search p r m).mpr ⟨h, hsat⟩, rfl⟩

theorem foundPaths_sublist (n : Node) (p : Pattern) : (n.foundPaths p).Sublist n.paths :=
  List.filter_sublist.map Prod.fst

theorem foundPaths_pairwise (n : Node) (p : Pattern) : (n.foundPaths p).Pairwise (· < ·) :=
  List.pairwise_map.mpr (n.search_pairwise p)

/-- A search whose test can be told from the path filters the paths of the tree. -/
theorem foundPaths_eq_filter (n : Node) (p : Pattern) (keeps : Path → Bool)
    (h : ∀ r m, n.at? r = some m → p.satisfiesNode m = keeps r) :
    n.foundPaths p = n.paths.filter keeps := by
  rw [foundPaths, paths, List.filter_map, search]
  congr 1
  refine List.filter_congr ?_
  rintro ⟨r, m⟩ hm
  exact h r m ((n.mem_walk r m).mp hm)

theorem foundPaths_or (n : Node) (p q : Pattern) :
    n.foundPaths (p.or q) =
      n.paths.filter fun r => r ∈ n.foundPaths p ∨ r ∈ n.foundPaths q := by
  refine n.foundPaths_eq_filter _ _ ?_
  intro r m hm
  rw [Pattern.satisfiesNode, Pattern.satisfies_or, Bool.eq_iff_iff, decide_eq_true_iff,
    Bool.or_eq_true, mem_foundPaths_of_at? hm, mem_foundPaths_of_at? hm]
  rfl

theorem foundPaths_and (n : Node) (p q : Pattern) :
    n.foundPaths (p.and q) =
      n.paths.filter fun r => r ∈ n.foundPaths p ∧ r ∈ n.foundPaths q := by
  refine n.foundPaths_eq_filter _ _ ?_
  intro r m hm
  rw [Pattern.satisfiesNode, Pattern.satisfies_and, Bool.eq_iff_iff, decide_eq_true_iff,
    Bool.and_eq_true, mem_foundPaths_of_at? hm, mem_foundPaths_of_at? hm]
  rfl

theorem foundPaths_not (n : Node) (p : Pattern) :
    n.foundPaths p.not = n.paths.filter fun r => r ∉ n.foundPaths p := by
  refine n.foundPaths_eq_filter _ _ ?_
  intro r m hm
  rw [Pattern.satisfiesNode, Pattern.satisfies, Bool.eq_iff_iff, decide_eq_true_iff,
    Bool.not_eq_true', ← Bool.not_eq_true, mem_foundPaths_of_at? hm]
  rfl

/-- **Combined patterns.** On the sets of paths that are found, `or` is union, `and` is
intersection and `not` is the complement among the paths of the tree, whatever form the
patterns have. As lists, the paths of a combined pattern are those of the tree that
belong there, so every search, by recursion or by cursor, lists its paths in pre-order
and each once. -/
theorem search_combined (n : Node) (p q : Pattern) :
    {r | r ∈ n.foundPaths (p.or q)} = {r | r ∈ n.foundPaths p} ∪ {r | r ∈ n.foundPaths q} ∧
    {r | r ∈ n.foundPaths (p.and q)} = {r | r ∈ n.foundPaths p} ∩ {r | r ∈ n.foundPaths q} ∧
    {r | r ∈ n.foundPaths p.not} = {r | r ∈ n.paths} \ {r | r ∈ n.foundPaths p} ∧
    (n.foundPaths (p.or q) =
      n.paths.filter fun r => r ∈ n.foundPaths p ∨ r ∈ n.foundPaths q) ∧
    (n.foundPaths (p.and q) =
      n.paths.filter fun r => r ∈ n.foundPaths p ∧ r ∈ n.foundPaths q) ∧
    (n.foundPaths p.not = n.paths.filter fun r => r ∉ n.foundPaths p) ∧
    ∀ s, ((Cursor.start n).collect s.satisfiesNode).map Prod.fst = n.foundPaths s ∧
      (n.foundPaths s).Sublist n.paths ∧ (n.foundPaths s).Pairwise (· < ·) ∧
      (n.foundPaths s).Nodup := by
  have hpaths : ∀ s r, r ∈ n.foundPaths s → r ∈ n.paths := fun s _ hr =>
    (n.foundPaths_sublist s).subset hr
  refine ⟨?_, ?_, ?_, n.foundPaths_or p q, n.foundPaths_and p q, n.foundPaths_not p, ?_⟩
  · ext r
    rw [n.foundPaths_or p q, Set.mem_ofPred_eq, List.mem_filter, decide_eq_true_iff]
    exact and_iff_right_of_imp fun hr => hr.elim (hpaths p r) (hpaths q r)
  · ext r
    rw [n.foundPaths_and p q, Set.mem_ofPred_eq, List.mem_filter, decide_eq_true_iff]
    exact and_iff_right_of_imp fun hr => hpaths p r hr.1
  · ext r
    rw [n.foundPaths_not p, Set.mem_ofPred_eq, List.mem_filter, decide_eq_true_iff]
    rfl
  · intro s
    refine ⟨by rw [← n.search_eq_collect s, foundPaths], n.foundPaths_sublist s,
      n.foundPaths_pairwise s, ?_⟩
    refine (n.foundPaths_pairwise s).imp ?_
    rintro r _ hlt rfl
    exact List.lt_irrefl r hlt

/-- The left operand is a chain already, and grows. -/
example :
    let tagged (name : String) : Pattern := .tagged (.sym name)
    let n : Node := ⟨none, [.sym "a", .list none [.sym "b"], .list none [.sym "c"]]⟩
    n.foundPaths (((tagged "a").or (tagged "b")).or (tagged "c")) = [[], [1], [2]] ∧
      n.foundPaths ((tagged "a").or (tagged "b")).not = [[2]] := by
  decide +kernel

end Node
end SexprQuery
