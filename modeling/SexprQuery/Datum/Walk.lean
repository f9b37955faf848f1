import SexprQuery.Datum.Path

/-!
# Walking a tree

The nodes of a tree in pre-order: a node before its slots, the slots from left
to right, atoms left out. `Node.walk` pairs each node with its path,
`Node.nodes` lists the nodes alone, and `Node.mass` counts them.

A `Cursor` goes through the same nodes one at a time. It holds the nodes from the
current one up to the root, and for each of them the first slot that is still to be
searched.
-/

namespace SexprQuery

-- sums start from the zero of the core library, also beside a library with others
attribute [local instance (2000)] Zero.ofOfNat0

mutual
/-- The nodes in a datum with their paths, behind the path of the datum. -/
def walkFrom : Path → Datum → List (Path × Node)
  | p, .list line slots => (p, ⟨line, slots⟩) :: walkSlots p 0 slots
  | _, _ => []
termination_by structural _ d => d

/-- The nodes in the slots from number `i` on of the node at a path. -/
def walkSlots : Path → Nat → List Datum → List (Path × Node)
  | _, _, [] => []
  | p, i, d :: ds => walkFrom (p ++ [i]) d ++ walkSlots p (i + 1) ds
termination_by structural _ _ ds => ds
end

mutual
/-- The nodes in a datum. -/
def Datum.nodes : Datum → List Node
  | .list line slots => ⟨line, slots⟩ :: slotsNodes slots
  | _ => []
termination_by structural d => d

/-- The nodes in a row of slots. -/
def slotsNodes : List Datum → List Node
  | [] => []
  | d :: ds => d.nodes ++ slotsNodes ds
termination_by structural ds => ds
end

mutual
/-- The number of nodes in a datum. -/
def Datum.mass : Datum → Nat
  | .list _ slots => 1 + slotsMass slots
  | _ => 0
termination_by structural d => d

/-- The number of nodes in a row of slots. -/
def slotsMass : List Datum → Nat
  | [] => 0
  | d :: ds => d.mass + slotsMass ds
termination_by structural ds => ds
end

namespace Node

/-- Every node of the tree with its path, in pre-order. -/
def walk (n : Node) : List (Path × Node) := walkFrom [] n.toDatum

/-- Every node of the tree, in pre-order. -/
def nodes (n : Node) : List Node := n.toDatum.nodes

/-- The number of nodes in the tree. -/
def mass (n : Node) : Nat := n.toDatum.mass

end Node

/-! ## Cursors -/

/-- A node on the way to the current one: the node, the slot that holds it in its
parent, and the number of its first slot not yet searched. -/
structure Cursor.Frame where
  node : Node
  slot : Nat
  next : Nat

/-- A walk in progress: the root while it has not been visited, and the nodes from
the current one up to the root. -/
structure Cursor where
  pending : Option Node
  frames : List Cursor.Frame

namespace Cursor

/-- Before the root. -/
def start (root : Node) : Cursor := ⟨some root, []⟩

/-- The slots of a node that are still to be searched. -/
def Frame.rest (f : Frame) : List Datum := f.node.slots.drop f.next

/-- The first node in a row of slots that are numbered from `i`, with its number. -/
def firstNode? : Nat → List Datum → Option (Nat × Node)
  | _, [] => none
  | i, .list line slots :: _ => some (i, ⟨line, slots⟩)
  | i, _ :: rest => firstNode? (i + 1) rest

/-- The next node below the frames, leaving the ones that have none left. -/
def advanceFrames : List Frame → Option Node × List Frame
  | [] => (none, [])
  | f :: above =>
    match firstNode? f.next f.rest with
    | some (i, child) => (some child, ⟨child, i, 0⟩ :: { f with next := i + 1 } :: above)
    | none => advanceFrames above

/-- Move to the next node, if there is one. -/
def advance (c : Cursor) : Option Node × Cursor :=
  match c.pending with
  | some root => (some root, ⟨none, ⟨root, 0, 0⟩ :: c.frames⟩)
  | none =>
    let moved := advanceFrames c.frames
    (moved.1, ⟨none, moved.2⟩)

/-- The path of the current node. -/
def path (c : Cursor) : Path := (c.frames.reverse.drop 1).map Frame.slot

/-- Move to the next node, which is given with its path. -/
def visit (c : Cursor) : Option (Path × Node) × Cursor :=
  (c.advance.1.map fun node => (c.advance.2.path, node), c.advance.2)

/-- The cursor after a number of moves. -/
def after (c : Cursor) : Nat → Cursor
  | 0 => c
  | k + 1 => c.advance.2.after k

/-- The number of nodes still to be visited. -/
def remaining (c : Cursor) : Nat :=
  (match c.pending with
    | some root => root.mass
    | none => 0) + (c.frames.map fun f => slotsMass f.rest).sum

/-- The first node stands behind atoms. -/
theorem firstNode?_eq_some {i j : Nat} {ds : List Datum} {n : Node}
    (h : firstNode? i ds = some (j, n)) :
    ∃ atoms rest, ds = atoms ++ n.toDatum :: rest ∧ (∀ d ∈ atoms, d.isList = false) ∧
      j = i + atoms.length := by
  fun_induction firstNode? i ds with
  | case1 => cases h
  | case2 i line slots rest =>
    cases h
    refine ⟨[], rest, rfl, ?_, rfl⟩
    exact fun _ hd => nomatch hd
  | case3 i d rest hd ih =>
    obtain ⟨atoms, behind, rfl, hatoms, rfl⟩ := ih h
    have hatom : d.isList = false := by cases d <;> first | rfl | exact absurd rfl (hd _ _)
    refine ⟨d :: atoms, behind, rfl, ?_, by rw [List.length_cons]; omega⟩
    rintro e (_ | ⟨_, he⟩)
    · exact hatom
    · exact hatoms e he

/-- There is none where all slots are atoms. -/
theorem isList_of_firstNode?_eq_none {i : Nat} {ds : List Datum} (h : firstNode? i ds = none) :
    ∀ d ∈ ds, d.isList = false := by
  fun_induction firstNode? i ds with
  | case1 => exact fun _ hd => nomatch hd
  | case2 => cases h
  | case3 i d rest hd ih =>
    rintro e (_ | ⟨_, he⟩)
    · cases d <;> first | rfl | exact absurd rfl (hd _ _)
    · exact ih h e he

/-- The slots behind the first node, which are the ones to be searched next. -/
theorem Frame.rest_of_firstNode? {f : Frame} {i : Nat} {n : Node}
    (h : firstNode? f.next f.rest = some (i, n)) :
    ∃ atoms, f.rest = atoms ++ n.toDatum :: f.node.slots.drop (i + 1) ∧
      (∀ d ∈ atoms, d.isList = false) ∧ i = f.next + atoms.length ∧ i < f.node.slots.length := by
  obtain ⟨atoms, rest, hrest, hatoms, rfl⟩ := firstNode?_eq_some h
  have hlength := congrArg List.length hrest
  rw [Frame.rest, List.length_drop, List.length_append, List.length_cons] at hlength
  have hbehind : f.node.slots.drop (f.next + atoms.length + 1) = rest := by
    have hdrop := congrArg (List.drop (atoms.length + 1)) hrest
    rw [Frame.rest, List.drop_drop, ← Nat.add_assoc] at hdrop
    rw [hdrop]
    simp [List.drop_append]
  exact ⟨atoms, by rw [hbehind, hrest], hatoms, rfl, by omega⟩

private theorem slotsMass_atoms_append {atoms ds : List Datum}
    (h : ∀ d ∈ atoms, d.isList = false) : slotsMass (atoms ++ ds) = slotsMass ds := by
  induction atoms with
  | nil => rfl
  | cons d atoms ih =>
    have hatom := h d List.mem_cons_self
    have hmass : d.mass = 0 := by cases d <;> first | rfl | cases hatom
    rw [List.cons_append, slotsMass, hmass, ih fun e he => h e (List.mem_cons_of_mem d he)]
    omega

private theorem mass_of_advanceFrames {fs gs : List Frame} {n : Node}
    (h : advanceFrames fs = (some n, gs)) :
    (gs.map fun f => slotsMass f.rest).sum < (fs.map fun f => slotsMass f.rest).sum := by
  induction fs with
  | nil => cases h
  | cons f above ih =>
    rw [advanceFrames] at h
    split at h
    · next i child hf =>
      cases h
      obtain ⟨atoms, hrest, hatoms, -⟩ := Frame.rest_of_firstNode? hf
      rw [List.map_cons, List.map_cons, List.map_cons, hrest, slotsMass_atoms_append hatoms]
      simp only [List.sum_cons, slotsMass, Node.toDatum, Datum.mass, Frame.rest, List.drop_zero]
      omega
    · have := ih h
      simp only [List.map_cons, List.sum_cons]
      omega

/-- Every step visits a node, so a cursor comes to an end. -/
theorem remaining_of_advance {c d : Cursor} {n : Node} (h : c.advance = (some n, d)) :
    d.remaining < c.remaining := by
  unfold advance at h
  split at h
  · next root hp =>
    cases h
    simp [remaining, hp, Node.mass, Node.toDatum, Datum.mass, Frame.rest]
  · next hp =>
    obtain ⟨hnode, rfl⟩ := Prod.mk.inj h
    have := mass_of_advanceFrames (Prod.ext hnode rfl)
    simpa [remaining, hp] using this

/-- Move to the next node that passes a test. -/
def advanceTo (test : Node → Bool) (c : Cursor) : Option (Node × Cursor) :=
  match _h : c.advance with
  | (none, _) => none
  | (some node, next) => if test node then some (node, next) else advanceTo test next
termination_by c.remaining
decreasing_by exact remaining_of_advance (by assumption)

/-- The nodes that pass a test from here on, with their paths. -/
def collect (test : Node → Bool) (c : Cursor) : List (Path × Node) :=
  match _h : c.advance with
  | (none, _) => []
  | (some node, next) =>
    if test node then (next.path, node) :: collect test next else collect test next
termination_by c.remaining
decreasing_by all_goals exact remaining_of_advance (by assumption)

end Cursor
end SexprQuery
