import SexprQuery.Proofs.Walk
import SexprQuery.Search.Match

/-!
# Cursors walk the tree

A cursor goes through a tree one node at a time. `Cursor.left` is what a cursor still
has to visit, as the recursion of the walk gives it: below each frame the slots from
its next one on, the innermost frame first. One move takes the head of that and leaves
the tail (`Cursor.visit_eq`), so the moves from the start are the walk
(`Node.walk_eq_visits`), and a search by cursor is the walk filtered
(`Node.search_eq_collect`).

Two more facts hold of a cursor at every point (`Cursor.InRange`): while the root is
pending there are no frames, and the next slot of a frame is at most one behind the last.
-/

namespace SexprQuery

/-! ## Nodes without paths -/

mutual
theorem map_snd_walkFrom (p : Path) (d : Datum) : (walkFrom p d).map Prod.snd = d.nodes := by
  cases d with
  | list line slots => rw [walkFrom, Datum.nodes, List.map_cons, map_snd_walkSlots p 0 slots]
  | _ => rfl
termination_by structural d

theorem map_snd_walkSlots (p : Path) (i : Nat) (ds : List Datum) :
    (walkSlots p i ds).map Prod.snd = slotsNodes ds := by
  cases ds with
  | nil => rfl
  | cons d ds =>
    rw [walkSlots, slotsNodes, List.map_append, map_snd_walkFrom (p ++ [i]) d,
      map_snd_walkSlots p (i + 1) ds]
termination_by structural ds
end

/-- The nodes of a tree are those of the walk, in its order. -/
theorem Node.map_snd_walk (n : Node) : n.walk.map Prod.snd = n.nodes :=
  map_snd_walkFrom [] n.toDatum

/-- Atoms in front are passed over. -/
theorem walkSlots_atoms_append {atoms : List Datum} (h : ∀ d ∈ atoms, d.isList = false) (p : Path)
    (i : Nat) (ds : List Datum) :
    walkSlots p i (atoms ++ ds) = walkSlots p (i + atoms.length) ds := by
  induction atoms generalizing i with
  | nil => rfl
  | cons d atoms ih =>
    have hatom := h d List.mem_cons_self
    have hwalk : walkFrom (p ++ [i]) d = [] := by cases d <;> first | rfl | cases hatom
    rw [List.cons_append, walkSlots, hwalk, ih (fun e he => h e (List.mem_cons_of_mem d he)),
      List.length_cons, List.nil_append, Nat.add_assoc, Nat.add_comm 1]

namespace Cursor

/-! ## What is left -/

/-- The path of the innermost of a row of frames. -/
def framesPath (fs : List Frame) : Path := (fs.reverse.drop 1).map Frame.slot

theorem framesPath_cons_cons (f g : Frame) (above : List Frame) :
    framesPath (f :: g :: above) = framesPath (g :: above) ++ [f.slot] := by
  have hdrop : (f :: g :: above).reverse.drop 1 = (g :: above).reverse.drop 1 ++ [f] := by
    rw [List.reverse_cons, List.drop_append_of_le_length (by simp)]
  rw [framesPath, framesPath, hdrop, List.map_append]
  rfl

/-- The path of a frame does not hang on how far it has been searched. -/
theorem framesPath_next (f : Frame) (next : Nat) (above : List Frame) :
    framesPath ({ f with next := next } :: above) = framesPath (f :: above) := by
  cases above with
  | nil => rfl
  | cons g above => rw [framesPath_cons_cons, framesPath_cons_cons]

/-- The nodes below frames that are still to be visited, with their paths. -/
def framesLeft : List Frame → List (Path × Node)
  | [] => []
  | f :: above => walkSlots (framesPath (f :: above)) f.next f.rest ++ framesLeft above

/-- The nodes that a cursor has still to visit, with their paths. -/
def left (c : Cursor) : List (Path × Node) :=
  match c.pending with
  | some root => root.walk
  | none => framesLeft c.frames

/-- A move below the frames visits the first of the nodes that are left there. -/
theorem framesLeft_eq (fs : List Frame) :
    framesLeft fs =
      ((advanceFrames fs).1.map fun node => (framesPath (advanceFrames fs).2, node)).toList ++
        framesLeft (advanceFrames fs).2 := by
  induction fs with
  | nil => rfl
  | cons f above ih =>
    rw [framesLeft, advanceFrames]
    split
    · next i child h =>
      obtain ⟨atoms, hrest, hatoms, hi, -⟩ := Frame.rest_of_firstNode? h
      have hparent := framesPath_next f (i + 1) above
      -- the child comes first, then what is below it, then the slots behind it
      rw [hrest, walkSlots_atoms_append hatoms, ← hi, walkSlots, Node.toDatum, walkFrom, framesLeft,
        framesLeft, framesPath_cons_cons, hparent]
      simp only [Option.map_some, Option.toList_some, Frame.rest, List.drop_zero, List.cons_append,
        List.nil_append, List.append_assoc]
    · next h =>
      have hwalk := walkSlots_atoms_append (isList_of_firstNode?_eq_none h)
        (framesPath (f :: above)) f.next []
      rw [List.append_nil] at hwalk
      rw [hwalk, walkSlots, List.nil_append]
      exact ih

/-- Where no node is left, the frames are gone. -/
theorem advanceFrames_snd_of_none {fs : List Frame} (h : (advanceFrames fs).1 = none) :
    (advanceFrames fs).2 = [] := by
  fun_induction advanceFrames fs with
  | case1 => rfl
  | case2 => cases h
  | case3 _ _ _ ih => exact ih h

/-! ## Cursors in range -/

/-- What holds of a cursor at every point of a walk. -/
structure InRange (c : Cursor) : Prop where
  /-- Before the root there is nothing to go back to. -/
  frames_eq_nil : c.pending.isSome = true → c.frames = []
  /-- The slots that are still to be searched are a part of the node's slots. -/
  next_le : ∀ f ∈ c.frames, f.next ≤ f.node.slots.length

theorem inRange_start (root : Node) : (start root).InRange where
  frames_eq_nil _ := rfl
  next_le _ hf := nomatch hf

theorem next_le_of_mem_advanceFrames {fs : List Frame}
    (h : ∀ f ∈ fs, f.next ≤ f.node.slots.length) :
    ∀ f ∈ (advanceFrames fs).2, f.next ≤ f.node.slots.length := by
  induction fs with
  | nil => exact fun _ hf => nomatch hf
  | cons f above ih =>
    have habove : ∀ g ∈ above, g.next ≤ g.node.slots.length := fun g hg =>
      h g (List.mem_cons_of_mem f hg)
    rw [advanceFrames]
    split
    · next i child hf =>
      obtain ⟨-, -, -, -, hlt⟩ := Frame.rest_of_firstNode? hf
      rintro g (_ | ⟨_, _ | ⟨_, hg⟩⟩)
      · exact Nat.zero_le _
      · exact hlt
      · exact habove g hg
    · exact ih habove

/-- A move keeps a cursor in range. -/
theorem InRange.advance {c : Cursor} (h : c.InRange) : c.advance.2.InRange := by
  obtain ⟨pending, frames⟩ := c
  cases pending with
  | some root =>
    obtain rfl : frames = [] := h.frames_eq_nil rfl
    refine ⟨fun hp => absurd hp Bool.false_ne_true, ?_⟩
    rintro f (_ | ⟨_, hf⟩)
    · exact Nat.zero_le _
    · cases hf
  | none =>
    refine ⟨fun hp => absurd hp Bool.false_ne_true, ?_⟩
    exact next_le_of_mem_advanceFrames h.next_le

theorem InRange.after {c : Cursor} (h : c.InRange) (k : Nat) : (c.after k).InRange := by
  induction k generalizing c with
  | zero => exact h
  | succ k ih => exact ih h.advance

/-! ## Moves -/

/-- A move visits the first of the nodes that are left. -/
theorem left_eq {c : Cursor} (h : c.InRange) : c.left = c.visit.1.toList ++ c.advance.2.left := by
  obtain ⟨pending, frames⟩ := c
  cases pending with
  | some root =>
    obtain rfl : frames = [] := h.frames_eq_nil rfl
    show root.walk = [([], root)] ++ (walkSlots [] 0 root.slots ++ [])
    rw [List.append_nil]
    rfl
  | none => exact framesLeft_eq frames

/-- Behind the last node nothing is left. -/
theorem left_advance_of_none {c : Cursor} (h : c.visit.1 = none) : c.advance.2.left = [] := by
  obtain ⟨pending, frames⟩ := c
  rw [visit, Option.map_eq_none_iff] at h
  cases pending with
  | some root => cases h
  | none =>
    show framesLeft (advanceFrames frames).2 = []
    rw [advanceFrames_snd_of_none h]
    rfl

/-- A move takes the head of what is left, and leaves the tail. -/
theorem visit_eq {c : Cursor} (h : c.InRange) :
    c.visit.1 = c.left.head? ∧ c.advance.2.left = c.left.tail := by
  have hleft := left_eq h
  cases hvisit : c.visit.1 with
  | some found =>
    rw [hvisit] at hleft
    rw [hleft]
    exact ⟨rfl, rfl⟩
  | none =>
    have hend := left_advance_of_none hvisit
    rw [hvisit, hend] at hleft
    rw [hleft, hend]
    exact ⟨rfl, rfl⟩

/-- So a number of moves drops as many nodes. -/
theorem left_after {c : Cursor} (h : c.InRange) (k : Nat) : (c.after k).left = c.left.drop k := by
  induction k generalizing c with
  | zero => rfl
  | succ k ih => rw [after, ih h.advance, (visit_eq h).2, List.drop_tail]

theorem visit_after {c : Cursor} (h : c.InRange) (k : Nat) : (c.after k).visit.1 = c.left[k]? := by
  rw [(visit_eq (h.after k)).1, left_after h k, List.head?_drop]

/-- The nodes that pass a test are what is left of the walk, filtered. -/
theorem collect_eq {c : Cursor} (h : c.InRange) (test : Node → Bool) :
    c.collect test = c.left.filter fun found => test found.2 := by
  fun_induction collect test c with
  | case1 c next hc =>
    have hvisit : c.visit.1 = none := by rw [visit, hc]; rfl
    have hleft := left_eq h
    rw [hvisit, left_advance_of_none hvisit] at hleft
    rw [hleft]
    rfl
  | case2 c node next hc htest ih =>
    have hleft := left_eq h
    have hnext := h.advance
    rw [visit, hc] at hleft
    rw [hc] at hnext
    rw [ih hnext, hleft]
    exact (List.filter_cons_of_pos (p := fun found : Path × Node => test found.2) htest).symm
  | case3 c node next hc htest ih =>
    have hleft := left_eq h
    have hnext := h.advance
    rw [visit, hc] at hleft
    rw [hc] at hnext
    rw [ih hnext, hleft]
    exact (List.filter_cons_of_neg (p := fun found : Path × Node => test found.2) htest).symm

/-- The next node that passes a test is the first of all that do. -/
theorem advanceTo_eq (c : Cursor) (test : Node → Bool) :
    (c.advanceTo test).map (fun moved => (moved.2.path, moved.1)) = (c.collect test).head? := by
  fun_induction advanceTo test c with
  | case1 c next hc =>
    rw [collect]
    split
    · rfl
    · next heq => cases hc.symm.trans heq
  | case2 c node next hc htest =>
    rw [collect]
    split
    · next heq => cases hc.symm.trans heq
    · next heq =>
      cases hc.symm.trans heq
      rw [if_pos htest]
      rfl
  | case3 c node next hc htest ih =>
    rw [collect]
    split
    · next heq => cases hc.symm.trans heq
    · next heq =>
      cases hc.symm.trans heq
      rw [if_neg htest]
      exact ih

end Cursor

/-- Searching by a cursor finds what the search of the tree finds. -/
theorem Node.search_eq_collect (n : Node) (p : Pattern) :
    n.search p = (Cursor.start n).collect p.satisfiesNode :=
  (Cursor.collect_eq (Cursor.inRange_start n) p.satisfiesNode).symm

/-- **Walking.** The moves of a cursor from the start visit the nodes of the recursive
pre-order one by one, with their paths, and then none for ever. The paths increase, so
none comes twice, and they are the ones that lead to a node, each to the node it comes
with. No frame ever asks for slots behind the last. -/
theorem Node.walk_eq_visits (n : Node) :
    (∀ k, ((Cursor.start n).after k).visit.1 = n.walk[k]?) ∧
      (∀ k, ((Cursor.start n).after k).advance.1 = n.nodes[k]?) ∧
      n.walk.map Prod.snd = n.nodes ∧
      (n.walk.map Prod.fst).Pairwise (· < ·) ∧ (n.walk.map Prod.fst).Nodup ∧
      (∀ p m, (p, m) ∈ n.walk ↔ n.at? p = some m) ∧
      (∀ k, ∀ f ∈ ((Cursor.start n).after k).frames, f.next ≤ f.node.slots.length) ∧
      ∀ k j, ((Cursor.start n).after k).advance.1 = none → k ≤ j →
        ((Cursor.start n).after j).advance.1 = none := by
  have hstart := Cursor.inRange_start n
  have hvisit : ∀ k, ((Cursor.start n).after k).visit.1 = n.walk[k]? := Cursor.visit_after hstart
  have hadvance : ∀ k, ((Cursor.start n).after k).advance.1 = n.nodes[k]? := by
    intro k
    have hnode : ((Cursor.start n).after k).advance.1 =
        ((Cursor.start n).after k).visit.1.map Prod.snd := by
      rw [Cursor.visit, Option.map_map]
      exact Option.map_id.symm ▸ rfl
    rw [hnode, hvisit, ← List.getElem?_map, n.map_snd_walk]
  have hpaths : (n.walk.map Prod.fst).Pairwise (· < ·) := List.pairwise_map.mpr n.walk_pairwise
  refine ⟨hvisit, hadvance, n.map_snd_walk, hpaths, ?_, n.mem_walk, ?_, ?_⟩
  · refine hpaths.imp ?_
    rintro p q hlt rfl
    exact List.lt_irrefl p hlt
  · exact fun k => (hstart.after k).next_le
  · intro k j hnone hle
    rw [hadvance, List.getElem?_eq_none_iff] at hnone ⊢
    omega

end SexprQuery
