import SexprQuery.Proofs.Atoms

/-!
# Renaming atoms

Renaming an atom replaces the atoms that equal the old one, and touches nothing else:
`Node.replaceAtoms_exact` lists the places, with what stands there before and after.

Two renamings in a row, the first of them to an atom, are one substitution for atoms
(`Node.replaceAtoms_replaceAtoms`), so laws of renaming are laws of functions on atoms. A
renaming to an atom that was not there is undone by renaming back, and renamings that do not
meet can be done in either order (`Node.replaceAtoms_laws`). Trees that hold a NaN are not
equal to themselves, and renaming does not change that (`Datum.hasNan_substAtoms`), so there
the laws say which tree comes out and not that it is equal to another one.
-/

namespace SexprQuery

/-! ## One atom -/

namespace Datum

variable {old new a : Datum}

theorem renamed_of_beq (h : (a == old) = true) : renamed old new a = new := if_pos h

theorem renamed_of_ne (h : (a == old) = false) : renamed old new a = a :=
  if_neg (Bool.eq_false_iff.mp h)

/-- An atom that stands at a path is replaced by what a substitution makes of it. -/
theorem get?_substAtoms_of_atom (f : Datum → Datum) {d : Datum} {q : Path}
    (h : d.get? q = some a) (ha : a.isList = false) : (d.substAtoms f).get? q = some (f a) := by
  rw [get?_substAtoms f h, substAtoms_of_atom f ha]

/-- A renaming neither takes a NaN away nor puts one in, unless the new datum has one. -/
theorem hasNan_renamed (old : Datum) (hnew : new.hasNan = false) (a : Datum) :
    (renamed old new a).hasNan = a.hasNan := by
  cases h : a == old with
  | true => rw [renamed_of_beq h, hnew, hasNan_of_beq h]
  | false => rw [renamed_of_ne h]

/-- A datum has a NaN in it behind a substitution if it had one before, provided that this
is so for every atom. -/
theorem hasNan_substAtoms {f : Datum → Datum} (hf : KeepsAtoms f)
    (hnan : ∀ a, (f a).hasNan = a.hasNan) (d : Datum) : (d.substAtoms f).hasNan = d.hasNan := by
  rw [hasNan_eq_any, hasNan_eq_any d, hf.atoms_substAtoms, List.any_map]
  exact congrArg d.atoms.any (funext hnan)

end Datum

theorem KeepsAtoms.renamed {new : Datum} (h : new.isList = false) (old : Datum) :
    KeepsAtoms (Datum.renamed old new) := by
  intro a ha
  rw [Datum.renamed]
  split
  · exact h
  · exact ha

/-- Renaming an atom to itself leaves an equal datum, if any datum equals it. The form of an
atom may change, as zero may its sign. -/
theorem Datum.substAtoms_renamed_self_beq (a d : Datum) :
    Datum.beq (d.substAtoms (renamed a a)) d = !d.hasNan := by
  rw [substAtoms_beq, hasNan_eq_any, List.not_any_eq_all_not]
  congr 1
  funext x
  cases h : x == a with
  | true => rw [renamed_of_beq h, hasNan_of_beq h, Datum.beq_comm]; exact h
  | false => rw [renamed_of_ne h, beq_self_eq]

/-! ## What a renaming does -/

namespace Node

/-- Every node of a tree stands in another tree too, at its path, with its line and as many
slots. -/
def NodesStay (n tree : Node) : Prop :=
  ∀ q m, n.at? q = some m →
    ∃ m', tree.at? q = some m' ∧ m'.line = m.line ∧ m'.slots.length = m.slots.length

theorem nodesStay_substAtoms (n : Node) (f : Datum → Datum) : n.NodesStay (n.substAtoms f) := by
  intro q m hm
  exact ⟨m.substAtoms f, at?_substAtoms f hm, rfl, List.length_map _⟩

/-- Where no atom equals the old one, renaming changes nothing. -/
theorem replaceAtoms_of_forall_ne {n : Node} {old : Datum} (new : Datum)
    (h : ∀ a ∈ n.toDatum.atoms, (a == old) = false) : n.replaceAtoms old new = (n, 0) := by
  have hcount : (n.replaceAtoms old new).2 = 0 := by
    rw [n.replaceAtoms_eq, List.countP_eq_zero]
    exact fun a ha => Bool.eq_false_iff.mp (h a ha)
  exact Prod.ext (replaceAtoms_of_snd_eq_zero hcount) hcount

/-- A list is not renamed: no atom equals it. -/
theorem replaceAtoms_of_isList (n : Node) {old : Datum} (h : old.isList = true) (new : Datum) :
    n.replaceAtoms old new = (n, 0) := by
  refine replaceAtoms_of_forall_ne new fun a ha => ?_
  have hatom := Datum.isList_of_mem_atoms n.toDatum ha
  cases old with
  | list =>
    cases a with
    | list => cases hatom
    | _ => rfl
  | _ => cases h

section
variable {f : Datum → Datum}

/-- A walk over atoms that are replaced by atoms. -/
theorem map_fst_walk_substAtoms (n : Node) (hf : KeepsAtoms f) :
    (n.substAtoms f).walk.map Prod.fst = n.walk.map Prod.fst := by
  rw [walk, toDatum_substAtoms, hf.walkFrom_substAtoms, List.map_map]
  rfl

theorem mass_substAtoms (n : Node) (hf : KeepsAtoms f) : (n.substAtoms f).mass = n.mass := by
  have hlength := congrArg List.length (n.map_fst_walk_substAtoms hf)
  rwa [List.length_map, List.length_map, walk, walk, length_walkFrom, length_walkFrom] at hlength

theorem depth_substAtoms (n : Node) (hf : KeepsAtoms f) : (n.substAtoms f).depth = n.depth := by
  rw [depth, toDatum_substAtoms, hf.depth_substAtoms]
  rfl

theorem lastLine_substAtoms (n : Node) (hf : KeepsAtoms f) :
    (n.substAtoms f).lastLine = n.lastLine := by
  rw [lastLine, toDatum_substAtoms, hf.lastLine_substAtoms]
  rfl

end

/-- Behind a renaming to another atom, the old one is in the tree no more. -/
theorem forall_ne_replaceAtoms (n : Node) {old new : Datum} (hatom : new.isList = false)
    (hne : (new == old) = false) :
    ∀ a ∈ (n.replaceAtoms old new).1.toDatum.atoms, (a == old) = false := by
  rw [n.replaceAtoms_eq, toDatum_substAtoms, (KeepsAtoms.renamed hatom old).atoms_substAtoms]
  intro _ ha
  obtain ⟨a, -, rfl⟩ := List.mem_map.mp ha
  cases h : a == old with
  | true => rw [Datum.renamed_of_beq h, hne]
  | false => rw [Datum.renamed_of_ne h, h]

/-- **Renaming an atom.** The result has the new datum in the place of every atom that equals
the old one, as many times as the count says, and it has all other atoms and all nodes where
they were. What is put in is the new datum as it is, even if there is an old atom in it. A
list is not renamed. If the new datum is an atom, the tree keeps its shape, and if it is not
equal to the old one nothing is left to be renamed. -/
theorem replaceAtoms_exact (n : Node) (old new : Datum) :
    ∃ (tree : Node) (places : List Path),
      n.replaceAtoms old new = (tree, places.length) ∧
      places.Pairwise (· < ·) ∧
      (∀ q, q ∈ places ↔ n.toDatum.HasAtomAt old q) ∧
      (∀ q ∈ places, tree.toDatum.get? q = some new) ∧
      (∀ q a, n.toDatum.get? q = some a → a.isList = false → q ∉ places →
        tree.toDatum.get? q = some a) ∧
      n.NodesStay tree ∧
      (old.isList = true → places = [] ∧ tree = n) ∧
      (new.isList = false →
        tree.walk.map Prod.fst = n.walk.map Prod.fst ∧ tree.mass = n.mass ∧
        tree.depth = n.depth ∧ tree.lastLine = n.lastLine ∧
        ((new == old) = false →
          (∀ q, ¬ tree.toDatum.HasAtomAt old q) ∧ tree.replaceAtoms old new = (tree, 0))) := by
  have heq : n.replaceAtoms old new =
      (n.substAtoms (Datum.renamed old new), (n.toDatum.places old).length) := by
    rw [n.replaceAtoms_eq, Datum.length_places]
  have htree := n.toDatum_substAtoms (Datum.renamed old new)
  refine ⟨n.substAtoms (Datum.renamed old new), n.toDatum.places old, heq,
    Datum.places_pairwise _ _, fun q => Datum.mem_places, ?_, ?_,
    n.nodesStay_substAtoms _, ?_, ?_⟩
  · -- the places
    intro q hq
    obtain ⟨a, ha, hatom, hequal⟩ := Datum.mem_places.mp hq
    rw [htree, Datum.get?_substAtoms_of_atom _ ha hatom, Datum.renamed_of_beq hequal]
  · -- all other atoms
    intro q a ha hatom hq
    have hne : (a == old) = false := by
      refine Bool.eq_false_iff.mpr fun h => hq ?_
      exact Datum.mem_places.mpr ⟨a, ha, hatom, h⟩
    rw [htree, Datum.get?_substAtoms_of_atom _ ha hatom, Datum.renamed_of_ne hne]
  · -- a list for the old atom
    intro hlist
    have hsame := heq.symm.trans (n.replaceAtoms_of_isList hlist new)
    rw [Prod.mk.injEq, List.length_eq_zero_iff] at hsame
    exact ⟨hsame.2, hsame.1⟩
  · -- an atom for an atom
    intro hatom
    have hkeeps := KeepsAtoms.renamed hatom old
    refine ⟨n.map_fst_walk_substAtoms hkeeps, n.mass_substAtoms hkeeps,
      n.depth_substAtoms hkeeps, n.lastLine_substAtoms hkeeps, ?_⟩
    intro hne
    have hnone := n.forall_ne_replaceAtoms hatom hne
    rw [heq] at hnone
    exact ⟨Datum.forall_not_hasAtomAt_iff.mpr hnone, replaceAtoms_of_forall_ne new hnone⟩

/-- What is put in is not looked into, so renaming once more can go on for ever. -/
example :
    let n : Node := ⟨some 1, [.sym "a", .list (some 2) [.sym "a"]]⟩
    let first := n.replaceAtoms (.sym "a") (.list none [.sym "a"])
    first.1.toDatum.source = "((a) ((a)))" ∧ first.2 = 2 ∧
      (first.1.replaceAtoms (.sym "a") (.list none [.sym "a"])).2 = 2 := by
  decide +kernel

/-! ## Two renamings -/

/-- A renaming to an atom and another one behind it are one substitution for atoms. -/
theorem replaceAtoms_replaceAtoms (n : Node) (a : Datum) {b : Datum} (hb : b.isList = false)
    (c d : Datum) :
    (n.replaceAtoms a b).1.replaceAtoms c d =
      (n.substAtoms fun x => Datum.renamed c d (Datum.renamed a b x),
        n.toDatum.atoms.countP fun x => Datum.renamed a b x == c) := by
  have hkeeps := KeepsAtoms.renamed hb a
  rw [replaceAtoms_eq, n.replaceAtoms_eq]
  refine Prod.ext ?_ ?_
  · apply toDatum_injective
    rw [toDatum_substAtoms, toDatum_substAtoms, toDatum_substAtoms, Datum.substAtoms_substAtoms]
    refine Datum.substAtoms_congr _ fun x hx => ?_
    exact Datum.substAtoms_of_atom _ (hkeeps x (Datum.isList_of_mem_atoms _ hx))
  · show (n.substAtoms _).toDatum.atoms.countP _ = _
    rw [toDatum_substAtoms, hkeeps.atoms_substAtoms, List.countP_map]
    rfl

/-- Substitutions that agree on the atoms of a tree. -/
theorem substAtoms_congr {n : Node} {f g : Datum → Datum}
    (h : ∀ a ∈ n.toDatum.atoms, f a = g a) : n.substAtoms f = n.substAtoms g := by
  apply toDatum_injective
  rw [toDatum_substAtoms, toDatum_substAtoms, Datum.substAtoms_congr _ h]

/-- Renaming to an atom that was not there, and back. -/
theorem replaceAtoms_back {n : Node} (a : Datum) {b : Datum} (hb : b.isList = false)
    (hnan : b.hasNan = false) (hfresh : ∀ x ∈ n.toDatum.atoms, (x == b) = false) :
    (n.replaceAtoms a b).1.replaceAtoms b a =
      (n.substAtoms (Datum.renamed a a), (n.replaceAtoms a b).2) := by
  have hself : (b == b) = true := by
    show Datum.beq b b = true
    rw [Datum.beq_self_eq, hnan, Bool.not_false]
  rw [n.replaceAtoms_replaceAtoms a hb, n.replaceAtoms_eq]
  -- the second renaming meets only what the first one has put in
  refine Prod.ext (substAtoms_congr ?_) (List.countP_congr ?_)
  · intro x hx
    cases h : x == a with
    | true => rw [Datum.renamed_of_beq h, Datum.renamed_of_beq h, Datum.renamed_of_beq hself]
    | false =>
      rw [Datum.renamed_of_ne h, Datum.renamed_of_ne h, Datum.renamed_of_ne (hfresh x hx)]
  · intro x hx
    cases h : x == a with
    | true => rw [Datum.renamed_of_beq h, hself]
    | false => rw [Datum.renamed_of_ne h, hfresh x hx]

/-- Renamings that do not meet. -/
theorem replaceAtoms_comm {a b c d : Datum} (n : Node) (hb : b.isList = false)
    (hd : d.isList = false) (hac : (a == c) = false) (hbc : (b == c) = false)
    (had : (a == d) = false) :
    (n.replaceAtoms a b).1.replaceAtoms c d =
      (((n.replaceAtoms c d).1.replaceAtoms a b).1, (n.replaceAtoms c d).2) := by
  -- an atom is renamed by one of them at most, and what they put in by none
  have hboth : ∀ x, (x == a) = true → (x == c) = false := by
    intro x ha
    cases hc : x == c with
    | false => rfl
    | true =>
      have hax : (a == x) = true := (Datum.beq_comm a x).trans ha
      exact absurd (Datum.beq_trans hax hc) (Bool.eq_false_iff.mp hac)
  have hda : (d == a) = false := (Datum.beq_comm d a).trans had
  rw [n.replaceAtoms_replaceAtoms a hb, n.replaceAtoms_replaceAtoms c hd, n.replaceAtoms_eq]
  refine Prod.ext (substAtoms_congr ?_) (List.countP_congr ?_)
  · intro x _
    cases ha : x == a with
    | true =>
      rw [Datum.renamed_of_beq ha, Datum.renamed_of_ne hbc, Datum.renamed_of_ne (hboth x ha),
        Datum.renamed_of_beq ha]
    | false =>
      rw [Datum.renamed_of_ne ha]
      cases hc : x == c with
      | true => rw [Datum.renamed_of_beq hc, Datum.renamed_of_ne hda]
      | false => rw [Datum.renamed_of_ne hc, Datum.renamed_of_ne ha]
  · intro x _
    cases ha : x == a with
    | true => rw [Datum.renamed_of_beq ha, hbc, hboth x ha]
    | false => rw [Datum.renamed_of_ne ha]

/-- **Laws of renaming.** Renaming to an atom that is not in the tree and renaming back
replace the same number of atoms, and they leave the first atom in the place of each atom that
equals it and all else as it was. Renamings of different atoms, neither of which is renamed to
the other, leave the same tree in either order, and each replaces as many atoms as it does by
itself. As trees, what is left is equal to the tree in the one case and to itself in the other
exactly if the tree holds no NaN. -/
theorem replaceAtoms_laws (n : Node) :
    (∀ a b : Datum, b.isList = false → b.hasNan = false → (∀ q, ¬ n.toDatum.HasAtomAt b q) →
      ∃ there back count,
        n.replaceAtoms a b = (there, count) ∧ there.replaceAtoms b a = (back, count) ∧
        (back == n) = !n.toDatum.hasNan ∧
        (∀ q x, n.toDatum.get? q = some x → x.isList = false →
          back.toDatum.get? q = some (if x == a then a else x)) ∧
        n.NodesStay back) ∧
    ∀ a b c d : Datum, b.isList = false → d.isList = false → (a == c) = false →
      (b == c) = false → (a == d) = false →
      ∃ ab cd abcd cdab ofA ofC,
        n.replaceAtoms a b = (ab, ofA) ∧ ab.replaceAtoms c d = (abcd, ofC) ∧
        n.replaceAtoms c d = (cd, ofC) ∧ cd.replaceAtoms a b = (cdab, ofA) ∧
        abcd = cdab ∧
        (b.hasNan = false → d.hasNan = false → (abcd == cdab) = !n.toDatum.hasNan) := by
  refine ⟨?_, ?_⟩
  · -- there and back
    intro a b hb hnan hfresh
    have hback := replaceAtoms_back a hb hnan (Datum.forall_not_hasAtomAt_iff.mp hfresh)
    refine ⟨_, _, _, rfl, hback, ?_, ?_, n.nodesStay_substAtoms _⟩
    · show Datum.beq (n.substAtoms _).toDatum n.toDatum = _
      rw [toDatum_substAtoms, Datum.substAtoms_renamed_self_beq]
    · intro q x hx hatom
      rw [toDatum_substAtoms, Datum.get?_substAtoms_of_atom _ hx hatom]
      rfl
  · -- in either order
    intro a b c d hb hd hac hbc had
    have hac' : (c == a) = false := (Datum.beq_comm c a).trans hac
    have had' : (d == a) = false := (Datum.beq_comm d a).trans had
    have hcb : (c == b) = false := (Datum.beq_comm c b).trans hbc
    have hcomm := n.replaceAtoms_comm hb hd hac hbc had
    have hcomm' := n.replaceAtoms_comm hd hb hac' had' hcb
    refine ⟨(n.replaceAtoms a b).1, (n.replaceAtoms c d).1, _,
      ((n.replaceAtoms c d).1.replaceAtoms a b).1, (n.replaceAtoms a b).2, (n.replaceAtoms c d).2,
      rfl, hcomm, rfl, Prod.ext rfl (by rw [hcomm']), rfl, ?_⟩
    · intro hbnan hdnan
      show Datum.beq (Node.toDatum _) (Node.toDatum _) = _
      rw [Datum.beq_self_eq, n.replaceAtoms_replaceAtoms c hd, toDatum_substAtoms,
        Datum.hasNan_substAtoms]
      · intro x hx
        exact KeepsAtoms.renamed hb a _ (KeepsAtoms.renamed hd c x hx)
      · intro x
        rw [Datum.hasNan_renamed a hbnan, Datum.hasNan_renamed c hdnan]

/-- With a NaN in it, a tree is not equal to what renaming there and back leaves, and what two
renamings leave in one order is not equal to what they leave in the other. -/
theorem replaceAtoms_laws_of_nan :
    let n : Node := ⟨none, [.sym "x", .sym "z", .float .nan]⟩
    let there := (n.replaceAtoms (.sym "x") (.sym "y")).1
    let other := (n.replaceAtoms (.sym "z") (.sym "w")).1
    (∀ q, ¬ n.toDatum.HasAtomAt (.sym "y") q) ∧
      ((there.replaceAtoms (.sym "y") (.sym "x")).1 == n) = false ∧
      ((there.replaceAtoms (.sym "z") (.sym "w")).1 ==
        (other.replaceAtoms (.sym "x") (.sym "y")).1) = false := by
  refine ⟨Datum.forall_not_hasAtomAt_iff.mpr ?_, ?_, ?_⟩
  all_goals decide +kernel

/-- A zero that equals the renamed one comes back with the sign of that. -/
example :
    let n : Node := ⟨some 1, [.float (.zero true), .sym "b"]⟩
    let there := (n.replaceAtoms (.float (.zero false)) (.sym "c")).1
    let back := (there.replaceAtoms (.sym "c") (.float (.zero false))).1
    n.toDatum.source = "(-0.0 b)" ∧ there.toDatum.source = "(c b)" ∧
      back.toDatum.source = "(0.0 b)" ∧ (back == n) = true := by
  decide +kernel

end Node

end SexprQuery
