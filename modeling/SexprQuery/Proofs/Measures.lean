import SexprQuery.Proofs.Descendants

/-!
# Measures of a tree and its walk

`Node.mass`, `Node.depth` and `Node.lastLine` are recursions on the tree, and a walk of the
tree is what a cursor makes of it. What the recursions count is what the walk shows: the mass
is the number of moves of a cursor (`Node.isSome_visit_iff`), the depth is one more than the
length of the longest path (`Node.length_lt_depth`, `Node.exists_at?_of_depth`), and the last
line is the greatest of the lines (`Node.lastLine_eq_max?`).
-/

namespace SexprQuery

-- sums start from the zero of the core library, also beside a library with others
attribute [local instance (2000)] Zero.ofOfNat0

/-! ## Mass -/

theorem Node.length_walk (n : Node) : n.walk.length = n.mass := length_walkFrom [] n.toDatum

theorem Node.length_nodes (n : Node) : n.nodes.length = n.mass := by
  rw [← n.map_snd_walk, List.length_map, n.length_walk]

/-- A node counts for itself and its children. -/
theorem Node.mass_eq_children (n : Node) : n.mass = 1 + (n.children.map Node.mass).sum := by
  have hchildren : n.children.map (fun m => m.nodes.length) = n.children.map Node.mass :=
    List.map_congr_left fun m _ => m.length_nodes
  rw [← n.length_nodes, n.nodes_eq, List.length_cons, List.length_flatMap, hchildren, Nat.add_comm]

/-- A cursor moves to a node as many times as the tree has nodes. -/
theorem Node.isSome_visit_iff (n : Node) (k : Nat) :
    ((Cursor.start n).after k).visit.1.isSome = true ↔ k < n.mass := by
  rw [Cursor.visit_after (Cursor.inRange_start n)]
  show n.walk[k]?.isSome = true ↔ _
  rw [Option.isSome_iff_ne_none, ne_eq, List.getElem?_eq_none_iff, Nat.not_le, n.length_walk]

/-- Every node passes `wild`. -/
theorem Node.search_wild (n : Node) : n.search .wild = n.walk :=
  List.filter_eq_self.mpr fun _ _ => rfl

/-! ## Depth -/

theorem depth_le_slotsDepth {d : Datum} {ds : List Datum} (h : d ∈ ds) :
    d.depth ≤ slotsDepth ds := by
  induction ds with
  | nil => cases h
  | cons e ds ih =>
    rw [slotsDepth]
    rcases List.mem_cons.mp h with rfl | h
    · exact Nat.le_max_left _ _
    · exact (ih h).trans (Nat.le_max_right _ _)

/-- A path goes through fewer slots than there are nodes one below the other. -/
theorem Datum.length_lt_depth {d : Datum} {p : Path} {m : Node} (h : d.at? p = some m) :
    p.length < d.depth := by
  induction p generalizing d with
  | nil =>
    rw [Datum.eq_toDatum_of_node? ((Datum.at?_nil d).symm.trans h)]
    exact Nat.lt_of_lt_of_le Nat.zero_lt_one (Nat.le_add_right 1 _)
  | cons i p ih =>
    cases d with
    | list line slots =>
      obtain ⟨e, he, hp⟩ := Option.bind_eq_some_iff.mp h
      have hslot := depth_le_slotsDepth (List.mem_of_getElem? he)
      have hbelow := ih hp
      rw [Datum.depth, List.length_cons]
      omega
    | _ => cases h

mutual
/-- Some path goes through as many as that. -/
theorem Datum.exists_at?_of_depth (d : Datum) (h : d.isList = true) :
    ∃ p m, d.at? p = some m ∧ p.length + 1 = d.depth := by
  cases d with
  | list line slots =>
    by_cases hzero : slotsDepth slots = 0
    · exact ⟨[], ⟨line, slots⟩, rfl, by rw [Datum.depth, hzero]; rfl⟩
    · obtain ⟨i, e, p, m, he, hp, hlength⟩ := exists_at?_of_slotsDepth slots hzero
      refine ⟨i :: p, m, ?_, by rw [Datum.depth, List.length_cons, hlength, Nat.add_comm]⟩
      rw [Datum.at?_cons_list, he]
      exact hp
  | _ => cases h
termination_by structural d

theorem exists_at?_of_slotsDepth (ds : List Datum) (h : slotsDepth ds ≠ 0) :
    ∃ (i : Nat) (d : Datum) (p : Path) (m : Node),
      ds[i]? = some d ∧ d.at? p = some m ∧ p.length + 1 = slotsDepth ds := by
  cases ds with
  | nil => exact absurd rfl h
  | cons d ds =>
    rw [slotsDepth] at h ⊢
    -- the longest path leads through the deepest slot
    rcases Nat.le_total (slotsDepth ds) d.depth with hle | hle
    · rw [Nat.max_eq_left hle] at h ⊢
      have hlist : d.isList = true := by
        by_contra hatom
        exact h (Datum.depth_of_atom (Bool.eq_false_iff.mpr hatom))
      obtain ⟨p, m, hp, hlength⟩ := Datum.exists_at?_of_depth d hlist
      exact ⟨0, d, p, m, rfl, hp, hlength⟩
    · rw [Nat.max_eq_right hle] at h ⊢
      obtain ⟨i, e, p, m, he, hp, hlength⟩ := exists_at?_of_slotsDepth ds h
      exact ⟨i + 1, e, p, m, he, hp, hlength⟩
termination_by structural ds
end

/-- The depth is one more than the length of the longest path. -/
theorem Node.max?_lengths (n : Node) :
    (n.walk.map fun found => found.1.length).max?.map (1 + ·) = some n.depth := by
  obtain ⟨p, m, hp, hlength⟩ := Datum.exists_at?_of_depth n.toDatum rfl
  have hmax : (n.walk.map fun found => found.1.length).max? = some p.length := by
    rw [List.max?_eq_some_iff]
    refine ⟨List.mem_map.mpr ⟨(p, m), (n.mem_walk p m).mpr hp, rfl⟩, ?_⟩
    intro k hk
    obtain ⟨⟨q, m'⟩, hq, rfl⟩ := List.mem_map.mp hk
    have hlt := Datum.length_lt_depth ((n.mem_walk q m').mp hq)
    rw [← hlength] at hlt
    exact Nat.le_of_lt_succ hlt
  rw [hmax, Option.map_some, Nat.add_comm, hlength]
  rfl

/-! ## Lines -/

theorem laterLine_assoc (a b c : Option Nat) :
    laterLine (laterLine a b) c = laterLine a (laterLine b c) := by
  cases a <;> cases b <;> cases c <;> simp [laterLine, Nat.max_assoc]

theorem foldr_laterLine (lines : List (Option Nat)) (line : Option Nat) :
    lines.foldr laterLine line = laterLine (lines.foldr laterLine none) line := by
  induction lines with
  | nil => rfl
  | cons l lines ih => rw [List.foldr_cons, List.foldr_cons, ih, laterLine_assoc]

mutual
/-- The largest line of a datum is that of its nodes. -/
theorem Datum.lastLine_eq_foldr (d : Datum) :
    d.lastLine = (d.nodes.map Node.line).foldr laterLine none := by
  cases d with
  | list line slots =>
    rw [Datum.lastLine, Datum.nodes, List.map_cons, List.foldr_cons, slotsLastLine_eq_foldr slots]
  | _ => rfl
termination_by structural d

theorem slotsLastLine_eq_foldr (ds : List Datum) :
    slotsLastLine ds = ((slotsNodes ds).map Node.line).foldr laterLine none := by
  cases ds with
  | nil => rfl
  | cons d ds =>
    rw [slotsLastLine, Datum.lastLine_eq_foldr d, slotsLastLine_eq_foldr ds, slotsNodes,
      List.map_append, List.foldr_append, ← foldr_laterLine]
termination_by structural ds
end

theorem max?_cons_eq_laterLine (line : Nat) (lines : List Nat) :
    (line :: lines).max? = laterLine (some line) lines.max? := by
  rw [List.max?_cons]
  cases lines.max? <;> rfl

/-- The largest of lines some of which are not known. -/
theorem foldr_laterLine_eq_max? (lines : List (Option Nat)) :
    lines.foldr laterLine none = (lines.filterMap id).max? := by
  induction lines with
  | nil => rfl
  | cons line lines ih =>
    rw [List.foldr_cons, ih]
    cases line with
    | none => rfl
    | some l => exact (max?_cons_eq_laterLine l _).symm

theorem Node.lastLine_eq_max? (n : Node) :
    n.lastLine = (n.walk.filterMap fun found => found.2.line).max? := by
  rw [Node.lastLine, Datum.lastLine_eq_foldr, foldr_laterLine_eq_max?, List.filterMap_map]
  show (n.nodes.filterMap Node.line).max? = _
  rw [← n.map_snd_walk, List.filterMap_map]
  rfl

/-- There is one unless no node has a line. -/
theorem Node.lastLine_eq_none_iff (n : Node) :
    n.lastLine = none ↔ ∀ found ∈ n.walk, found.2.line = none := by
  rw [n.lastLine_eq_max?, List.max?_eq_none_iff, List.filterMap_eq_nil_iff]

/-! ## All of them -/

/-- **Measures and walks.** The mass of a tree is the number of nodes in its walk, which is how
often a cursor moves to a node; it is one more than the masses of the children together, and
a search for anything finds as many. The depth is one more than the length of the longest
path of the walk. The last line is the greatest line in it, and there is none exactly if no
node has a line. -/
theorem Node.measures_eq (n : Node) :
    n.mass = n.walk.length ∧
    (∀ k, ((Cursor.start n).after k).visit.1.isSome = true ↔ k < n.mass) ∧
    n.mass = 1 + (n.children.map Node.mass).sum ∧
    n.search .wild = n.walk ∧ (n.search .wild).length = n.mass ∧
    (n.walk.map fun found => found.1.length).max?.map (1 + ·) = some n.depth ∧
    n.lastLine = (n.walk.filterMap fun found => found.2.line).max? ∧
    (n.lastLine = none ↔ ∀ found ∈ n.walk, found.2.line = none) :=
  ⟨n.length_walk.symm, n.isSome_visit_iff, n.mass_eq_children, n.search_wild,
    by rw [n.search_wild, n.length_walk], n.max?_lengths, n.lastLine_eq_max?,
    n.lastLine_eq_none_iff⟩

end SexprQuery
