import SexprQuery.Datum.Walk

/-!
# The walk of a tree

`Node.walk` is pinned down by two facts: it holds a node at a path exactly where
`Node.at?` finds that node there (`mem_walk`), and its paths increase
(`walk_pairwise`). A path below a slot compares with a path below another slot as
the slot numbers do, which is all that the order needs.
-/

namespace SexprQuery

@[simp] theorem Datum.at?_nil (d : Datum) : d.at? [] = d.node? := by
  cases d <;> rfl

@[simp] theorem Datum.at?_cons_list (i : Nat) (p : Path) (line : Option Nat)
    (slots : List Datum) :
    (Datum.list line slots).at? (i :: p) = slots[i]?.bind (Datum.at? p) := rfl

/-- A datum that is a node is that node as a datum. -/
theorem Datum.eq_toDatum_of_node? {d : Datum} {m : Node} (h : d.node? = some m) :
    d = m.toDatum := by
  cases d <;> cases h
  rfl

/-- A node is told by what it is as a datum. -/
theorem Node.toDatum_injective {n m : Node} (h : n.toDatum = m.toDatum) : n = m := by
  have hnode := congrArg Datum.node? h
  rwa [node?_toDatum, node?_toDatum, Option.some.injEq] at hnode

/-- Only a list has nodes at all. -/
theorem Datum.at?_eq_none_of_atom {d : Datum} (h : d.isList = false) (p : Path) :
    d.at? p = none := by
  cases d with
  | list => cases h
  | _ => cases p <;> rfl

/-- A datum with a node somewhere in it is a list. -/
theorem Datum.isList_of_at? {d : Datum} {p : Path} {m : Node} (h : d.at? p = some m) :
    d.isList = true := by
  cases hd : d.isList with
  | true => rfl
  | false =>
    rw [Datum.at?_eq_none_of_atom hd] at h
    cases h

/-- Looking a path up in two parts. -/
theorem Datum.at?_append (d : Datum) (p q : Path) :
    d.at? (p ++ q) = (d.at? p).bind fun m => m.toDatum.at? q := by
  induction p generalizing d with
  | nil => cases d <;> first | rfl | cases q <;> rfl
  | cons i p ih =>
    cases d with
    | list line slots =>
      rw [List.cons_append, Datum.at?_cons_list, Datum.at?_cons_list, Option.bind_assoc]
      exact Option.bind_congr fun d _ => ih d
    | _ => rfl

theorem walkFrom_of_atom {d : Datum} (h : d.isList = false) (p : Path) : walkFrom p d = [] := by
  cases d with
  | list => cases h
  | _ => rfl

theorem Datum.depth_of_atom {d : Datum} (h : d.isList = false) : d.depth = 0 := by
  cases d with
  | list => cases h
  | _ => rfl

theorem Datum.lastLine_of_atom {d : Datum} (h : d.isList = false) : d.lastLine = none := by
  cases d with
  | list => cases h
  | _ => rfl

mutual
/-- A datum has as many nodes as the walk visits. -/
theorem length_walkFrom (p : Path) (d : Datum) : (walkFrom p d).length = d.mass := by
  cases d with
  | list line slots =>
    rw [walkFrom, Datum.mass, List.length_cons, length_walkSlots p 0 slots, Nat.add_comm]
  | _ => rfl
termination_by structural d

theorem length_walkSlots (p : Path) (i : Nat) (ds : List Datum) :
    (walkSlots p i ds).length = slotsMass ds := by
  cases ds with
  | nil => rfl
  | cons d ds =>
    rw [walkSlots, slotsMass, List.length_append, length_walkFrom (p ++ [i]) d,
      length_walkSlots p (i + 1) ds]
termination_by structural ds
end

/-! ## What the walk holds -/

mutual
/-- The walk from a path holds the nodes of the datum, at their paths behind it. -/
theorem mem_walkFrom (q : Path) (d : Datum) (r : Path) (m : Node) :
    (r, m) ∈ walkFrom q d ↔ ∃ p, r = q ++ p ∧ d.at? p = some m := by
  cases d with
  | list line slots =>
    rw [walkFrom, List.mem_cons, mem_walkSlots q 0 slots]
    constructor
    · rintro (h | ⟨j, p, d, rfl, hd, hp⟩)
      · cases h
        exact ⟨[], by simp, rfl⟩
      · exact ⟨j :: p, by simp, by simp [hd, hp]⟩
    · rintro ⟨_ | ⟨j, p⟩, rfl, hp⟩
      · left
        simp only [Datum.at?, Datum.node?, Option.some.injEq] at hp
        rw [hp, List.append_nil]
      · right
        obtain ⟨d, hd, hp⟩ := Option.bind_eq_some_iff.mp hp
        exact ⟨j, p, d, by simp, hd, hp⟩
  | _ =>
    simp only [walkFrom, List.not_mem_nil, false_iff, not_exists, not_and]
    rintro p _ h
    exact absurd (Datum.isList_of_at? h) (by simp [Datum.isList])
termination_by structural d

/-- The same for a row of slots that are numbered from `i`. -/
theorem mem_walkSlots (q : Path) (i : Nat) (ds : List Datum) (r : Path) (m : Node) :
    (r, m) ∈ walkSlots q i ds ↔
      ∃ j p d, r = q ++ (i + j) :: p ∧ ds[j]? = some d ∧ d.at? p = some m := by
  cases ds with
  | nil => simp [walkSlots]
  | cons d ds =>
    rw [walkSlots, List.mem_append, mem_walkFrom (q ++ [i]) d, mem_walkSlots q (i + 1) ds]
    constructor
    · rintro (⟨p, rfl, hp⟩ | ⟨j, p, e, rfl, he, hp⟩)
      · exact ⟨0, p, d, by simp, by simp, hp⟩
      · exact ⟨j + 1, p, e, by simp; omega, by simpa using he, hp⟩
    · rintro ⟨_ | j, p, e, rfl, he, hp⟩
      · rw [List.getElem?_cons_zero, Option.some.injEq] at he
        subst he
        exact .inl ⟨p, by simp, hp⟩
      · exact .inr ⟨j, p, e, by simp; omega, by simpa using he, hp⟩
termination_by structural ds
end

/-- The walk holds a node at a path exactly where the path leads to it. -/
theorem Node.mem_walk (n : Node) (p : Path) (m : Node) :
    (p, m) ∈ n.walk ↔ n.at? p = some m := by
  rw [Node.walk, mem_walkFrom]
  simp [Node.at?]

/-! ## Its order -/

/-- A path comes before every longer path that it begins. -/
theorem Path.lt_append_cons (q : Path) (i : Nat) (p : Path) : q < q ++ i :: p := by
  have h : q ++ [] < q ++ i :: p := List.append_left_lt (List.nil_lt_cons i p)
  rwa [List.append_nil] at h

/-- Below one node, a path into an earlier slot comes first. -/
theorem Path.append_cons_lt {i j : Nat} (h : i < j) (q p r : Path) :
    q ++ i :: p < q ++ j :: r :=
  List.append_left_lt (List.cons_lt_cons_iff.mpr (.inl h))

mutual
/-- The paths of the walk increase. -/
theorem walkFrom_pairwise (q : Path) (d : Datum) :
    (walkFrom q d).Pairwise fun a b => a.1 < b.1 := by
  cases d with
  | list line slots =>
    rw [walkFrom, List.pairwise_cons]
    refine ⟨?_, walkSlots_pairwise q 0 slots⟩
    rintro ⟨r, m⟩ hr
    obtain ⟨j, p, _, rfl, _⟩ := (mem_walkSlots q 0 slots r m).mp hr
    exact Path.lt_append_cons q _ p
  | _ => exact List.Pairwise.nil
termination_by structural d

/-- So do those of a row of slots. -/
theorem walkSlots_pairwise (q : Path) (i : Nat) (ds : List Datum) :
    (walkSlots q i ds).Pairwise fun a b => a.1 < b.1 := by
  cases ds with
  | nil => exact List.Pairwise.nil
  | cons d ds =>
    rw [walkSlots, List.pairwise_append]
    refine ⟨walkFrom_pairwise (q ++ [i]) d, walkSlots_pairwise q (i + 1) ds, ?_⟩
    rintro ⟨r, m⟩ hr ⟨r', m'⟩ hr'
    obtain ⟨p, rfl, _⟩ := (mem_walkFrom _ d r m).mp hr
    obtain ⟨j, p', _, rfl, _⟩ := (mem_walkSlots q (i + 1) ds r' m').mp hr'
    rw [List.append_assoc, List.singleton_append]
    exact Path.append_cons_lt (by omega) q p p'
termination_by structural ds
end

/-- The walk visits paths in increasing order. -/
theorem Node.walk_pairwise (n : Node) : n.walk.Pairwise fun a b => a.1 < b.1 :=
  walkFrom_pairwise [] n.toDatum

end SexprQuery
