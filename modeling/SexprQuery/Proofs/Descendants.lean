import SexprQuery.Proofs.Occurrence

/-!
# What a node holds below itself

The pattern `within` asks for a node that satisfies another pattern, at the subject or
anywhere below it. The walk behind it goes through all nodes below in one row
(`Datum.nodes`), and it comes to what the tree shows: a node holds what its own test or
the same question to one of its children says (`Node.nodes_eq`), and the nodes that hold
a match are the ones on the way to a match (`Node.mem_foundPaths_within`).
-/

namespace SexprQuery

/-! ## The nodes of a tree -/

theorem slotsNodes_eq_flatMap_children (ds : List Datum) :
    slotsNodes ds = (ds.filterMap Datum.node?).flatMap Node.nodes := by
  induction ds with
  | nil => rfl
  | cons d ds ih =>
    rw [slotsNodes, ih]
    cases d <;> rfl

/-- A node comes first among its nodes, and then come the nodes of its children. -/
theorem Node.nodes_eq (n : Node) : n.nodes = n :: n.children.flatMap Node.nodes := by
  show n :: slotsNodes n.slots = _
  rw [slotsNodes_eq_flatMap_children, children]

/-- The nodes of a tree are the ones that paths lead to. -/
theorem Node.mem_nodes_iff {n m : Node} : m ∈ n.nodes ↔ ∃ r, n.at? r = some m := by
  rw [← n.map_snd_walk, List.mem_map]
  constructor
  · rintro ⟨⟨r, _⟩, hr, rfl⟩
    exact ⟨r, (n.mem_walk r _).mp hr⟩
  · rintro ⟨r, hr⟩
    exact ⟨(r, m), (n.mem_walk r m).mpr hr, rfl⟩

theorem Node.at?_append (n : Node) (r s : Path) :
    n.at? (r ++ s) = (n.at? r).bind fun m => m.at? s :=
  n.toDatum.at?_append r s

/-- What is below a node of a tree is below its root. -/
theorem Node.nodes_subset {n m : Node} (h : m ∈ n.nodes) : m.nodes ⊆ n.nodes := by
  intro k hk
  obtain ⟨r, hr⟩ := Node.mem_nodes_iff.mp h
  obtain ⟨s, hs⟩ := Node.mem_nodes_iff.mp hk
  refine Node.mem_nodes_iff.mpr ⟨r ++ s, ?_⟩
  rw [n.at?_append, hr]
  exact hs

namespace Pattern

/-! ## Asking below -/

theorem satisfiesNode_within (p : Pattern) (n : Node) :
    (within p).satisfiesNode n = n.nodes.any p.satisfiesNode := by
  rw [satisfiesNode, satisfies_within, matchesWithin_node]

/-- An atom has nothing below. -/
theorem satisfies_within_of_atom {d : Datum} (h : d.isList = false) (p : Pattern) :
    (within p).satisfies d = p.satisfies d := by
  rw [satisfies_within, matchesWithin, h]
  rfl

/-- A pattern that is tested on nodes as another one on what is below them, and on atoms
as that one, is tested as `within` of it everywhere. -/
theorem satisfies_within_eq {p : Pattern} (answer : Datum → Bool)
    (hatom : ∀ d, d.isList = false → answer d = p.satisfies d)
    (hnode : ∀ n : Node, answer n.toDatum = n.nodes.any p.satisfiesNode) (d : Datum) :
    (within p).satisfies d = answer d := by
  cases hd : d.isList with
  | false => rw [satisfies_within_of_atom hd, hatom d hd]
  | true =>
    cases d with
    | list line slots =>
      exact (p.satisfiesNode_within ⟨line, slots⟩).trans (hnode ⟨line, slots⟩).symm
    | _ => cases hd

/-- To ask below twice is to ask once. -/
theorem satisfies_within_within (p : Pattern) (d : Datum) :
    (within (within p)).satisfies d = (within p).satisfies d := by
  refine satisfies_within_eq (within p).satisfies (fun _ _ => rfl) ?_ d
  intro n
  show (within p).satisfiesNode n = _
  rw [satisfiesNode_within, Bool.eq_iff_iff, List.any_eq_true, List.any_eq_true]
  constructor
  · rintro ⟨m, hm, hp⟩
    refine ⟨m, hm, ?_⟩
    rw [satisfiesNode_within, m.nodes_eq, List.any_cons, hp, Bool.true_or]
  · rintro ⟨m, hm, hp⟩
    rw [satisfiesNode_within, List.any_eq_true] at hp
    obtain ⟨k, hk, hp⟩ := hp
    exact ⟨k, Node.nodes_subset hm hk, hp⟩

/-- To ask below for any of several patterns is to ask for one of them. -/
theorem satisfies_within_any (ps : List Pattern) (d : Datum) :
    (within (any ps)).satisfies d = ps.any fun p => (within p).satisfies d := by
  refine satisfies_within_eq (fun d => ps.any fun p => (within p).satisfies d) ?_ ?_ d
  · intro d hd
    simp only [satisfies_within_of_atom hd]
    exact (anySatisfied_eq ps d).symm
  · intro n
    have hany : (any ps).satisfiesNode = fun m => ps.any fun p => p.satisfiesNode m :=
      funext fun m => anySatisfied_eq ps m.toDatum
    have hwithin : ∀ p : Pattern, (within p).satisfies n.toDatum = n.nodes.any p.satisfiesNode :=
      fun p => p.satisfiesNode_within n
    simp only [hany, hwithin]
    rw [Bool.eq_iff_iff]
    simp only [List.any_eq_true]
    exact ⟨fun ⟨p, hp, m, hm, h⟩ => ⟨m, hm, p, hp, h⟩, fun ⟨m, hm, p, hp, h⟩ => ⟨p, hp, m, hm, h⟩⟩

end Pattern

/-! ## Searching for what is on the way -/

/-- A node holds a match exactly if it is on the way to one. -/
theorem Node.mem_foundPaths_within (n : Node) (p : Pattern) (r : Path) :
    r ∈ n.foundPaths (.within p) ↔ ∃ s ∈ n.foundPaths p, r <+: s := by
  constructor
  · intro h
    obtain ⟨⟨q, m⟩, hm, rfl⟩ := List.mem_map.mp h
    obtain ⟨hat, hsat⟩ := (n.mem_search _ q m).mp hm
    rw [Pattern.satisfiesNode_within, List.any_eq_true] at hsat
    obtain ⟨k, hk, hp⟩ := hsat
    obtain ⟨s, hs⟩ := Node.mem_nodes_iff.mp hk
    have hpath : n.at? (q ++ s) = some k := by
      rw [n.at?_append, hat]
      exact hs
    exact ⟨q ++ s, (mem_foundPaths_of_at? hpath p).mpr hp, List.prefix_append q s⟩
  · rintro ⟨_, h, s, rfl⟩
    obtain ⟨⟨_, k⟩, hk, heq⟩ := List.mem_map.mp h
    obtain ⟨hat, hp⟩ := (n.mem_search _ _ k).mp hk
    obtain rfl : _ = r ++ s := heq
    -- the node above the match is there, since the path goes on through it
    rw [n.at?_append, Option.bind_eq_some_iff] at hat
    obtain ⟨m, hm, hs⟩ := hat
    refine (mem_foundPaths_of_at? hm _).mpr ?_
    rw [Pattern.satisfiesNode_within, List.any_eq_true]
    exact ⟨k, Node.mem_nodes_iff.mpr ⟨s, hs⟩, hp⟩

/-- **Below a node.** A search for what holds a match finds the paths on the way to the
matches, each of them once and in pre-order. A node holds a match if it is one or if one
of its children holds one. To ask below twice is to ask once, and to ask below for any
of several patterns is to ask for one of them. -/
theorem Pattern.within_laws :
    (∀ (n : Node) (p : Pattern), {r | r ∈ n.foundPaths (within p)} =
      {r | ∃ s ∈ n.foundPaths p, r <+: s}) ∧
    (∀ (n : Node) (p : Pattern), n.foundPaths (within p) =
      n.paths.filter fun r => ∃ s ∈ n.foundPaths p, r <+: s) ∧
    (∀ (p : Pattern) (n : Node), (within p).satisfiesNode n =
      (p.satisfiesNode n || n.children.any (within p).satisfiesNode)) ∧
    (∀ (p : Pattern) (d : Datum), (within (within p)).satisfies d = (within p).satisfies d) ∧
    ∀ (ps : List Pattern) (d : Datum),
      (within (any ps)).satisfies d = ps.any fun p => (within p).satisfies d := by
  refine ⟨?_, ?_, ?_, satisfies_within_within, satisfies_within_any⟩
  · intro n p
    ext r
    exact n.mem_foundPaths_within p r
  · intro n p
    refine n.foundPaths_eq_filter _ _ ?_
    intro r m hm
    rw [Bool.eq_iff_iff, decide_eq_true_iff, ← Node.mem_foundPaths_of_at? hm,
      n.mem_foundPaths_within]
  · intro p n
    have hbelow : (within p).satisfiesNode = fun m => m.nodes.any p.satisfiesNode :=
      funext p.satisfiesNode_within
    rw [p.satisfiesNode_within n, hbelow, n.nodes_eq, List.any_cons, List.any_flatMap]

/-- The root holds what its grandchild is, and so does the child on the way. -/
example :
    let n : Node := ⟨none, [.list none [.list none [.sym "a"]], .list none [.sym "b"]]⟩
    n.foundPaths (.tagged (.sym "a")) = [[0, 0]] ∧
      n.foundPaths (.within (.tagged (.sym "a"))) = [[], [0], [0, 0]] := by
  decide +kernel

end SexprQuery
