import SexprQuery.Proofs.Division
import SexprQuery.Proofs.RepeatedRuns

/-!
# Substituting by value

The copies of a node in a datum are the nodes that equal it (`Datum.copies`). Equal data
have equally many nodes, so no copy lies inside another one, and a search by value finds
outermost matches only (`Node.outermost_equals`).

Where neither the node occurs in the new datum nor the new datum in the node
(`Node.IsForeign`), putting the new datum in the place of some copies removes these and
brings about no other one (`mem_copies_putBelow`): a node above a place that was filled has
the new datum inside it, so it is no copy. Two results follow:

* `Node.replaceAll_leaves_no_copy` — replacing all copies leaves none;
* `Node.replaceAll_eq_replaceFirstTimes` — it is replacing the first copy as often as there
  are copies.
-/

namespace SexprQuery

/-! ## Equal data -/

namespace Datum

/-- Equal rows of slots are equal slot by slot. -/
theorem exists_getElem?_of_beqSlots {ds es : List Datum} (h : beqSlots ds es = true) {i : Nat}
    {d : Datum} (hd : ds[i]? = some d) : ∃ e, es[i]? = some e ∧ (d == e) = true := by
  induction ds generalizing es i with
  | nil => cases hd
  | cons a ds ih =>
    cases es with
    | nil => cases h
    | cons b es =>
      rw [beqSlots, Bool.and_eq_true] at h
      cases i with
      | zero =>
        cases hd
        exact ⟨b, rfl, h.1⟩
      | succ i => exact ih h.2 hd

/-- What stands at a path in a datum equals what stands there in an equal one. -/
theorem exists_get?_of_beq {d e : Datum} (h : (d == e) = true) {p : Path} {x : Datum}
    (hx : d.get? p = some x) : ∃ y, e.get? p = some y ∧ (x == y) = true := by
  induction p generalizing d e with
  | nil =>
    rw [get?_nil] at hx
    cases hx
    exact ⟨e, get?_nil e, h⟩
  | cons i p ih =>
    cases d with
    | list line slots =>
      cases e with
      | list line' slots' =>
        rw [get?_cons_list] at hx
        obtain ⟨c, hc, hx⟩ := Option.bind_eq_some_iff.mp hx
        obtain ⟨c', hc', hequal⟩ := exists_getElem?_of_beqSlots h hc
        rw [get?_cons_list, hc']
        exact ih hequal hx
      | _ => cases h
    | _ => cases hx

mutual
/-- Equal data have equally many nodes. -/
theorem mass_eq_of_beq (d e : Datum) (h : Datum.beq d e = true) : d.mass = e.mass := by
  cases d with
  | list line slots =>
    cases e with
    | list line' slots' => rw [mass, mass, slotsMass_eq_of_beqSlots slots slots' h]
    | _ => cases h
  | _ =>
    cases e with
    | list line' slots' => cases h
    | _ => rfl
termination_by structural d

theorem slotsMass_eq_of_beqSlots (ds es : List Datum) (h : beqSlots ds es = true) :
    slotsMass ds = slotsMass es := by
  cases ds with
  | nil =>
    cases es with
    | nil => rfl
    | cons e es => cases h
  | cons d ds =>
    cases es with
    | nil => cases h
    | cons e es =>
      rw [beqSlots, Bool.and_eq_true] at h
      rw [slotsMass, slotsMass, mass_eq_of_beq d e h.1, slotsMass_eq_of_beqSlots ds es h.2]
termination_by structural ds
end

theorem mass_le_slotsMass {ds : List Datum} {i : Nat} {d : Datum} (h : ds[i]? = some d) :
    d.mass ≤ slotsMass ds := by
  induction ds generalizing i with
  | nil => cases h
  | cons e ds ih =>
    rw [slotsMass]
    cases i with
    | zero =>
      cases h
      omega
    | succ i =>
      have := ih h
      omega

/-- A node has one node less for every step down to it, at least. -/
theorem mass_add_length_le {p : Path} {d : Datum} {m : Node} (h : d.at? p = some m) :
    m.mass + p.length ≤ d.mass := by
  induction p generalizing d with
  | nil =>
    rw [at?_nil] at h
    rw [eq_toDatum_of_node? h]
    exact Nat.le_refl _
  | cons i p ih =>
    cases d with
    | list line slots =>
      rw [at?_cons_list] at h
      obtain ⟨c, hc, hm⟩ := Option.bind_eq_some_iff.mp h
      have hslot := mass_le_slotsMass hc
      have hbelow := ih hm
      rw [mass, List.length_cons]
      omega
    | _ => cases h

end Datum

/-! ## Copies -/

namespace Datum

/-- The nodes of a datum that equal a node, with their paths. -/
def copies (v : Node) (d : Datum) : List (Path × Node) := (walkFrom [] d).filter fun f => f.2 == v

variable {v : Node}

theorem mem_copies {d : Datum} {q : Path} {m : Node} :
    (q, m) ∈ d.copies v ↔ d.at? q = some m ∧ (m == v) = true := by
  rw [copies, List.mem_filter, mem_walkFrom]
  simp

theorem copies_pairwise (v : Node) (d : Datum) : (d.copies v).Pairwise fun a b => a.1 < b.1 :=
  (walkFrom_pairwise [] d).filter _

theorem length_copies (v : Node) (d : Datum) : (d.copies v).length = d.nodes.countP (· == v) := by
  rw [copies, ← List.countP_eq_length_filter, ← map_snd_walkFrom [] d, List.countP_map]
  rfl

/-- A datum without a copy in it has no node that is one. -/
theorem beq_eq_false_of_copies_eq_nil {d : Datum} (h : d.copies v = []) :
    ∀ m ∈ d.nodes, (m == v) = false := by
  have hcount := length_copies v d
  rw [h, List.length_nil, eq_comm, List.countP_eq_zero] at hcount
  exact fun m hm => Bool.eq_false_iff.mpr (hcount m hm)

/-- Copies are of one size, so none is inside another one. -/
theorem eq_of_copies {d : Datum} {f g : Path × Node} (hf : f ∈ d.copies v) (hg : g ∈ d.copies v)
    (h : f.1 <+: g.1) : f = g := by
  obtain ⟨q, m⟩ := f
  obtain ⟨r, k⟩ := g
  obtain ⟨hm, hmv⟩ := mem_copies.mp hf
  obtain ⟨hk, hkv⟩ := mem_copies.mp hg
  obtain ⟨s, rfl⟩ := h
  have hbelow := hk
  rw [at?_append, hm, Option.bind_some] at hbelow
  have hsize := mass_add_length_le hbelow
  have hequal : m.toDatum.mass = k.mass :=
    (mass_eq_of_beq m.toDatum v.toDatum hmv).trans (mass_eq_of_beq k.toDatum v.toDatum hkv).symm
  have hnil : s = [] := List.length_eq_zero_iff.mp (by omega)
  subst hnil
  rw [List.append_nil] at hk ⊢
  cases hm.symm.trans hk
  rfl

/-- The paths of different copies part ways. -/
theorem apart_of_copies {d : Datum} {f g : Path × Node} (hf : f ∈ d.copies v)
    (hg : g ∈ d.copies v) (h : f ≠ g) : Path.Apart f.1 g.1 :=
  ⟨fun hprefix => h (eq_of_copies hf hg hprefix),
    fun hprefix => h (eq_of_copies hg hf hprefix).symm⟩

end Datum

namespace Node

/-- A search by value finds the copies, and all of them are outermost. -/
theorem outermost_equals (n v : Node) : n.outermost (.equals v) = n.toDatum.copies v := by
  refine eq_of_paths_increase (n.outermost_pairwise _) (n.toDatum.copies_pairwise v) ?_
  rintro ⟨q, m⟩
  rw [n.mem_outermost, Datum.mem_copies]
  constructor
  · intro h
    exact ⟨h.located, h.satisfied⟩
  · rintro ⟨hat, hequal⟩
    refine ⟨hat, hequal, ?_⟩
    intro r k hr hne hk
    refine Bool.eq_false_iff.mpr fun hkv => hne ?_
    have hcopy := Datum.eq_of_copies (Datum.mem_copies.mpr ⟨hk, hkv⟩)
      (Datum.mem_copies.mpr ⟨hat, hequal⟩) hr
    exact congrArg Prod.fst hcopy

end Node

/-! ## Putting a datum in the place of copies -/

/-- A node and a datum of which neither occurs inside the other: no node of the datum equals
the node, and nothing inside the node equals the datum. -/
structure Node.IsForeign (v : Node) (new : Datum) : Prop where
  notInNew : ∀ m ∈ new.nodes, (m == v) = false
  notInOld : ∀ p d, p ≠ [] → v.toDatum.get? p = some d → (d == new) = false

namespace Datum

variable {v : Node} {new d : Datum} {found : List (Path × Node)}

theorem fitsPuts_copies (h : found.Sublist (d.copies v)) (new : Datum) :
    d.FitsPuts (Node.putsAt found new) := by
  constructor
  · rw [Node.putsAt, List.map_map, List.pairwise_map]
    refine ((copies_pairwise v d).sublist h).imp_of_mem ?_
    rintro f g hf hg hlt
    refine apart_of_copies (h.subset hf) (h.subset hg) ?_
    rintro rfl
    exact List.lt_irrefl f.1 hlt
  · intro r hr
    obtain ⟨f, hf, rfl⟩ := List.mem_map.mp hr
    exact ⟨f.2, (mem_copies.mp (h.subset hf)).1⟩

/-- Behind copies that were replaced, the copies are those that were not. -/
theorem mem_copies_putBelow (hforeign : v.IsForeign new) (h : found.Sublist (d.copies v))
    (f : Path × Node) :
    f ∈ (putBelow 0 d (Node.putsAt found new)).copies v ↔ f ∈ d.copies v ∧ f ∉ found := by
  obtain ⟨q, k⟩ := f
  have hfits := fitsPuts_copies h new
  constructor
  · intro hf
    obtain ⟨hk, hkv⟩ := mem_copies.mp hf
    rcases hfits.of_at?_putBelow hk with
      ⟨r, hr, habove, hne⟩ | ⟨r, hr, s, -, hs⟩ | ⟨hapart, hbefore⟩
    · -- the new datum stands inside `k`, so something inside `v` equals it
      obtain ⟨s, hs⟩ := habove
      have hfilled := hfits.get?_putBelow hr
      rw [at?_eq_get?] at hk
      obtain ⟨c, hc, hnode⟩ := Option.bind_eq_some_iff.mp hk
      rw [← hs, get?_append, hc, Option.bind_some, eq_toDatum_of_node? hnode] at hfilled
      obtain ⟨y, hy, hequal⟩ := exists_get?_of_beq (show (k.toDatum == v.toDatum) = true from hkv)
        hfilled
      have hinside : s ≠ [] := by
        rintro rfl
        exact hne (by rw [← hs, List.append_nil])
      have hnew : r.2 = new := by
        obtain ⟨g, -, rfl⟩ := List.mem_map.mp hr
        rfl
      have hfalse := hforeign.notInOld s y hinside hy
      rw [← hnew] at hfalse
      rw [show (r.2 == y) = (y == r.2) from beq_comm r.2 y, hfalse] at hequal
      cases hequal
    · -- no copy stands in the new datum
      obtain ⟨g, -, rfl⟩ := List.mem_map.mp hr
      have hmem : k ∈ new.nodes := by
        rw [← map_snd_walkFrom [] new]
        exact List.mem_map.mpr ⟨(s, k), (mem_walkFrom [] new s k).mpr ⟨s, rfl, hs⟩, rfl⟩
      rw [hforeign.notInNew k hmem] at hkv
      cases hkv
    · refine ⟨mem_copies.mpr ⟨hbefore, hkv⟩, ?_⟩
      intro hfound
      exact (hapart (q, new) (List.mem_map_of_mem hfound)).1 (List.prefix_refl q)
  · rintro ⟨hcopy, hleft⟩
    obtain ⟨hk, hkv⟩ := mem_copies.mp hcopy
    refine mem_copies.mpr ⟨?_, hkv⟩
    rw [at?_eq_get?, get?_putBelow_of_apart, ← at?_eq_get?, hk]
    intro r hr
    obtain ⟨g, hg, rfl⟩ := List.mem_map.mp hr
    refine apart_of_copies (h.subset hg) hcopy ?_
    rintro rfl
    exact hleft hg

/-- So where the first copies have been replaced, the others are left. -/
theorem copies_putBelow_take (hforeign : v.IsForeign new) (k : Nat) (d : Datum) :
    (putBelow 0 d (Node.putsAt ((d.copies v).take k) new)).copies v = (d.copies v).drop k := by
  have hsorted := copies_pairwise v d
  refine eq_of_paths_increase (copies_pairwise v _) (hsorted.sublist (List.drop_sublist k _)) ?_
  intro f
  rw [mem_copies_putBelow hforeign (List.take_sublist k _)]
  rw [← List.take_append_drop k (d.copies v), List.pairwise_append] at hsorted
  obtain ⟨-, -, hbefore⟩ := hsorted
  constructor
  · rintro ⟨hcopy, hleft⟩
    rw [← List.take_append_drop k (d.copies v), List.mem_append] at hcopy
    exact hcopy.resolve_left hleft
  · intro hf
    refine ⟨(List.drop_sublist k _).subset hf, ?_⟩
    intro hfirst
    exact List.lt_irrefl f.1 (hbefore f hfirst f hf)

/-- The datum with all copies replaced. -/
def replaceCopies (d : Datum) (v : Node) (new : Datum) : Datum :=
  putBelow 0 d (Node.putsAt (d.copies v) new)

theorem replaceCopies_of_copies_eq_nil (h : d.copies v = []) : d.replaceCopies v new = d := by
  rw [replaceCopies, h]
  rfl

theorem copies_replaceCopies (hforeign : v.IsForeign new) (d : Datum) :
    (d.replaceCopies v new).copies v = [] := by
  have h := copies_putBelow_take hforeign (d.copies v).length d
  rwa [List.take_length, List.drop_length] at h

end Datum

namespace Node

variable {v : Node} {new : Datum}

theorem replaceAll_equals (n v : Node) (new : Datum) :
    n.replaceAll (.equals v) new = n.toDatum.replaceCopies v new := by
  rw [replaceAll, n.putAll_eq, n.outermost_equals]
  · rfl
  · rw [List.map_map]
    exact n.outermost_apart (.equals v)

theorem replaceFirst_equals (n v : Node) (new : Datum) :
    n.replaceFirst (.equals v) new =
      putBelow 0 n.toDatum (putsAt ((n.toDatum.copies v).take 1) new) := by
  rw [replaceFirst, n.putAll_eq, n.outermost_equals]
  · rfl
  · exact (n.fitsPuts_targets true (.equals v) new).apart

/-- **Replacing by value is complete.** Where neither the old node nor the new datum occurs
inside the other, no node of the result equals the old one, and replacing again changes
nothing. -/
theorem replaceAll_leaves_no_copy (h : v.IsForeign new) (n : Node) :
    (∀ m ∈ (n.replaceAll (.equals v) new).nodes, (m == v) = false) ∧
      ∀ n', (n.replaceAll (.equals v) new).node? = some n' →
        n'.replaceAll (.equals v) new = n'.toDatum := by
  rw [n.replaceAll_equals]
  have hnone := Datum.copies_replaceCopies h n.toDatum
  refine ⟨Datum.beq_eq_false_of_copies_eq_nil hnone, ?_⟩
  intro n' hn'
  rw [Datum.eq_toDatum_of_node? hn'] at hnone
  rw [n'.replaceAll_equals, Datum.replaceCopies_of_copies_eq_nil hnone]

/-- The new datum is made of what is in the old node, and one list starts like the old node. -/
theorem replaceAll_leaves_no_copy_shared_parts :
    let v : Node := ⟨some 1, [.sym "a", .list (some 1) [.sym "b"]]⟩
    let new : Datum := .list (some 1) [.list (some 1) [.sym "b"], .sym "a"]
    let longer : Datum := .list (some 2) [.sym "a", .list (some 2) [.sym "b"], .nil]
    let result : Datum := .list (some 1) [.sym "x", new, .list (some 2) [new, longer]]
    ∃ n, readNode "(x (a (b))\n((a (b)) (a (b) nil)))" = .ok n ∧ v.IsForeign new ∧
      n.replaceAll (.equals v) new = result ∧ (∀ m ∈ result.nodes, (m == v) = false) ∧
      ∀ n', result.node? = some n' → n'.replaceAll (.equals v) new = n'.toDatum := by
  intro v new longer result
  have hforeign : v.IsForeign new := by
    refine ⟨by decide, ?_⟩
    intro p d hp hd
    match p, hp with
    | [0], _ => cases hd; rfl
    | [1], _ => cases hd; rfl
    | [1, 0], _ => cases hd; rfl
    | 0 :: _ :: _, _ => cases hd
    | 1 :: 0 :: _ :: _, _ => cases hd
    | 1 :: (_ + 1) :: _, _ => cases hd
    | (_ + 2) :: _, _ => cases hd
  let again : Datum := .list (some 2) [.sym "a", .list (some 2) [.sym "b"]]
  let n : Node := ⟨some 1, [.sym "x", v, .list (some 2) [again, longer]]⟩
  have hresult : n.replaceAll (.equals v) new = result := rfl
  have hcomplete := replaceAll_leaves_no_copy hforeign n
  rw [hresult] at hcomplete
  exact ⟨n, rfl, hforeign, hresult, hcomplete⟩

end Node

/-! ## One copy after the other -/

namespace Datum

/-- Replace the first match a number of times, as long as there is a tree. -/
def replaceFirstTimes (p : Pattern) (new : Datum) : Nat → Datum → Datum
  | 0, d => d
  | k + 1, d =>
    match d.node? with
    | some n => replaceFirstTimes p new k (n.replaceFirst p new)
    | none => d

variable {v : Node} {new : Datum}

theorem copies_of_node?_eq_none {d : Datum} (h : d.node? = none) (v : Node) : d.copies v = [] := by
  cases d with
  | list => cases h
  | _ => rfl

/-- A step replaces the first copy and leaves the others. -/
theorem copies_replaceFirst (h : v.IsForeign new) (n : Node) :
    (n.replaceFirst (.equals v) new).copies v = (n.toDatum.copies v).drop 1 := by
  rw [n.replaceFirst_equals, copies_putBelow_take h]

/-- What is left to replace behind a step is what was left before, so the steps come to the
same datum. -/
theorem replaceCopies_replaceFirst (h : v.IsForeign new) (n : Node) :
    (n.replaceFirst (.equals v) new).replaceCopies v new = n.toDatum.replaceCopies v new := by
  rw [replaceCopies, copies_replaceFirst h, n.replaceFirst_equals, ← putBelow_append, Node.putsAt,
    Node.putsAt, ← List.map_append, List.take_append_drop]
  rfl

theorem copies_replaceFirstTimes (h : v.IsForeign new) (k : Nat) (d : Datum) :
    (replaceFirstTimes (.equals v) new k d).copies v = (d.copies v).drop k := by
  induction k generalizing d with
  | zero => rfl
  | succ k ih =>
    rw [replaceFirstTimes]
    split
    · next n hn =>
      rw [ih, copies_replaceFirst h, eq_toDatum_of_node? hn, List.drop_drop, Nat.add_comm]
    · next hn =>
      rw [copies_of_node?_eq_none hn, List.drop_nil]

theorem replaceCopies_replaceFirstTimes (h : v.IsForeign new) (k : Nat) (d : Datum) :
    (replaceFirstTimes (.equals v) new k d).replaceCopies v new = d.replaceCopies v new := by
  induction k generalizing d with
  | zero => rfl
  | succ k ih =>
    rw [replaceFirstTimes]
    split
    · next n hn => rw [ih, replaceCopies_replaceFirst h, eq_toDatum_of_node? hn]
    · rfl

/-- One more step, behind the others. -/
theorem replaceFirstTimes_succ (p : Pattern) (new : Datum) (k : Nat) (d : Datum) :
    replaceFirstTimes p new (k + 1) d =
      replaceFirstTimes p new 1 (replaceFirstTimes p new k d) := by
  induction k generalizing d with
  | zero => rfl
  | succ k ih =>
    rw [replaceFirstTimes]
    split
    · next n hn =>
      rw [ih, show replaceFirstTimes p new (k + 1) d =
        replaceFirstTimes p new k (n.replaceFirst p new) by rw [replaceFirstTimes, hn]]
    · next hn =>
      rw [show replaceFirstTimes p new (k + 1) d = d by rw [replaceFirstTimes, hn],
        replaceFirstTimes, hn]

end Datum

namespace Node

variable {v : Node} {new : Datum}

/-- **Replacing by value, one copy after the other.** Where neither the old node nor the new
datum occurs inside the other, replacing all copies of the old node is replacing the first
one as often as there are copies in the tree. Before each of these steps there is a tree
still, and the step leaves one copy less. -/
theorem replaceAll_eq_replaceFirstTimes (h : v.IsForeign new) (n : Node) :
    Datum.replaceFirstTimes (.equals v) new (n.nodes.countP (· == v)) n.toDatum =
        n.replaceAll (.equals v) new ∧
      ∀ k < n.nodes.countP (· == v), ∃ m : Node,
        Datum.replaceFirstTimes (.equals v) new k n.toDatum = m.toDatum ∧
          Datum.replaceFirstTimes (.equals v) new (k + 1) n.toDatum =
            m.replaceFirst (.equals v) new ∧
          (m.replaceFirst (.equals v) new).nodes.countP (· == v) + 1 =
            m.nodes.countP (· == v) := by
  have hcount : n.nodes.countP (· == v) = (n.toDatum.copies v).length :=
    (Datum.length_copies v n.toDatum).symm
  rw [hcount]
  have hleft := fun k => Datum.copies_replaceFirstTimes h k n.toDatum
  constructor
  · have hnone := hleft (n.toDatum.copies v).length
    rw [List.drop_length] at hnone
    rw [n.replaceAll_equals, ← Datum.replaceCopies_of_copies_eq_nil hnone,
      Datum.replaceCopies_replaceFirstTimes h]
  · intro k hk
    have hk' := hleft k
    cases hnode : (Datum.replaceFirstTimes (.equals v) new k n.toDatum).node? with
    | none =>
      rw [Datum.copies_of_node?_eq_none hnode, eq_comm, List.drop_eq_nil_iff] at hk'
      omega
    | some m =>
      have hm := Datum.eq_toDatum_of_node? hnode
      refine ⟨m, hm, ?_, ?_⟩
      · rw [Datum.replaceFirstTimes_succ, hm]
        rfl
      · rw [hm] at hk'
        have hstep := Datum.copies_replaceFirst h m
        have hbefore : m.nodes.countP (· == v) = (m.toDatum.copies v).length :=
          (Datum.length_copies v m.toDatum).symm
        rw [← Datum.length_copies, hstep, hbefore, hk', List.length_drop, List.length_drop]
        omega

/-- Two copies, for which an atom is put in. -/
theorem replaceAll_eq_replaceFirstTimes_two :
    let v : Node := ⟨some 1, [.sym "q"]⟩
    let steps := Datum.replaceFirstTimes (.equals v) (.sym "z")
    ∃ n, readNode "((q)\n(q q) (r (q)))" = .ok n ∧ v.IsForeign (.sym "z") ∧
      n.nodes.countP (· == v) = 2 ∧ (steps 2 n.toDatum).source = "(z (q q) (r z))" ∧
      steps 2 n.toDatum = n.replaceAll (.equals v) (.sym "z") ∧
      ∀ k < 2, ∃ m : Node, steps k n.toDatum = m.toDatum ∧
        steps (k + 1) n.toDatum = m.replaceFirst (.equals v) (.sym "z") ∧
        (m.replaceFirst (.equals v) (.sym "z")).nodes.countP (· == v) + 1 =
          m.nodes.countP (· == v) := by
  intro v steps
  have hforeign : v.IsForeign (.sym "z") := by
    refine ⟨by decide, ?_⟩
    intro p d hp hd
    match p, hp with
    | [0], _ => cases hd; rfl
    | 0 :: _ :: _, _ => cases hd
    | (_ + 1) :: _, _ => cases hd
  let n : Node := ⟨some 1, [v, .list (some 2) [.sym "q", .sym "q"],
    .list (some 2) [.sym "r", .list (some 2) [.sym "q"]]]⟩
  exact ⟨n, rfl, hforeign, rfl, by decide +kernel, replaceAll_eq_replaceFirstTimes hforeign n⟩

end Node

end SexprQuery
