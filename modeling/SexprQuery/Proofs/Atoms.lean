import SexprQuery.Proofs.Equality
import SexprQuery.Proofs.Replacement
import SexprQuery.Search.Substitute

/-!
# The atoms of a datum

`Datum.atoms` lists the atoms of a datum from left to right, and `Datum.atomsFrom` lists them
with their paths: it holds an atom at a path exactly where that atom stands
(`mem_atomsFrom`), and its paths increase (`atomsFrom_pairwise`).

`Datum.substAtoms` puts what a function makes of an atom in the place of each atom. It does
not look into what it has put, so doing it twice is doing it once with both functions
(`Datum.substAtoms_substAtoms`), and it depends on the atoms alone
(`Datum.substAtoms_congr`). A function that makes atoms of atoms leaves the shape of a
datum as it was, with all lines, so walks and measures stay.

Renaming an atom is such a substitution, and it counts the atoms that it replaces
(`Node.replaceAtoms_eq`).
-/

namespace SexprQuery

/-! ## Atoms in a row -/

mutual
/-- The atoms of a datum, from left to right. -/
def Datum.atoms : Datum → List Datum
  | .list _ slots => slotsAtoms slots
  | d => [d]
termination_by structural d => d

/-- The same for a row of slots. -/
def slotsAtoms : List Datum → List Datum
  | [] => []
  | d :: ds => d.atoms ++ slotsAtoms ds
termination_by structural ds => ds
end

theorem Datum.atoms_of_atom {d : Datum} (h : d.isList = false) : d.atoms = [d] := by
  cases d with
  | list => cases h
  | _ => rfl

mutual
theorem Datum.isList_of_mem_atoms {a : Datum} (d : Datum) (h : a ∈ d.atoms) :
    a.isList = false := by
  cases d with
  | list line slots => exact isList_of_mem_slotsAtoms slots h
  | _ =>
    rw [Datum.atoms_of_atom rfl, List.mem_singleton] at h
    subst h
    rfl
termination_by structural d

theorem isList_of_mem_slotsAtoms {a : Datum} (ds : List Datum) (h : a ∈ slotsAtoms ds) :
    a.isList = false := by
  cases ds with
  | nil => cases h
  | cons d ds =>
    rw [slotsAtoms, List.mem_append] at h
    rcases h with h | h
    · exact Datum.isList_of_mem_atoms d h
    · exact isList_of_mem_slotsAtoms ds h
termination_by structural ds
end

mutual
/-- There is a NaN in a datum if one of its atoms is one. -/
theorem Datum.hasNan_eq_any (d : Datum) : d.hasNan = d.atoms.any Datum.hasNan := by
  cases d with
  | list line slots => exact slotsHaveNan_eq_any slots
  | _ => rw [Datum.atoms_of_atom rfl, List.any_cons, List.any_nil, Bool.or_false]
termination_by structural d

theorem slotsHaveNan_eq_any (ds : List Datum) :
    Datum.slotsHaveNan ds = (slotsAtoms ds).any Datum.hasNan := by
  cases ds with
  | nil => rfl
  | cons d ds =>
    rw [Datum.slotsHaveNan, slotsAtoms, List.any_append, Datum.hasNan_eq_any d,
      slotsHaveNan_eq_any ds]
termination_by structural ds
end

/-! ## Atoms and their places -/

mutual
/-- The atoms of a datum with their paths, behind the path of the datum. -/
def Datum.atomsFrom : Path → Datum → List (Path × Datum)
  | p, .list _ slots => slotsAtomsFrom p 0 slots
  | p, d => [(p, d)]
termination_by structural _ d => d

/-- The same for the slots from number `i` on of the node at a path. -/
def slotsAtomsFrom : Path → Nat → List Datum → List (Path × Datum)
  | _, _, [] => []
  | p, i, d :: ds => d.atomsFrom (p ++ [i]) ++ slotsAtomsFrom p (i + 1) ds
termination_by structural _ _ ds => ds
end

theorem Datum.atomsFrom_of_atom {d : Datum} (h : d.isList = false) (p : Path) :
    d.atomsFrom p = [(p, d)] := by
  cases d with
  | list => cases h
  | _ => rfl

/-- In an atom there is nothing further down. -/
theorem Datum.get?_of_atom {d : Datum} (h : d.isList = false) (p : Path) :
    d.get? p = if p = [] then some d else none := by
  cases p with
  | nil => exact get?_nil d
  | cons i p =>
    cases d with
    | list => cases h
    | _ => rfl

mutual
/-- The atoms of a datum stand at their paths behind its own, and there are no others. -/
theorem mem_atomsFrom (q : Path) (d : Datum) (r : Path) (a : Datum) :
    (r, a) ∈ d.atomsFrom q ↔ ∃ p, r = q ++ p ∧ d.get? p = some a ∧ a.isList = false := by
  cases d with
  | list line slots =>
    rw [Datum.atomsFrom, mem_slotsAtomsFrom q 0 slots]
    constructor
    · rintro ⟨j, p, d, rfl, hd, hp, hatom⟩
      exact ⟨j :: p, by simp, by rw [Datum.get?_cons_list, hd]; exact hp, hatom⟩
    · rintro ⟨_ | ⟨j, p⟩, rfl, hp, hatom⟩
      · rw [Datum.get?_nil] at hp
        cases hp
        cases hatom
      · obtain ⟨d, hd, hp⟩ := Option.bind_eq_some_iff.mp hp
        exact ⟨j, p, d, by simp, hd, hp, hatom⟩
  | _ =>
    rw [Datum.atomsFrom_of_atom rfl, List.mem_singleton, Prod.mk.injEq]
    constructor
    · rintro ⟨rfl, rfl⟩
      exact ⟨[], by simp, rfl, rfl⟩
    · rintro ⟨p, rfl, hp, -⟩
      rw [Datum.get?_of_atom rfl] at hp
      split at hp
      · next hnil =>
        cases hp
        exact ⟨by rw [hnil, List.append_nil], rfl⟩
      · cases hp
termination_by structural d

/-- The same for a row of slots that are numbered from `i`. -/
theorem mem_slotsAtomsFrom (q : Path) (i : Nat) (ds : List Datum) (r : Path) (a : Datum) :
    (r, a) ∈ slotsAtomsFrom q i ds ↔
      ∃ j p d, r = q ++ (i + j) :: p ∧ ds[j]? = some d ∧ d.get? p = some a ∧
        a.isList = false := by
  cases ds with
  | nil => simp [slotsAtomsFrom]
  | cons d ds =>
    rw [slotsAtomsFrom, List.mem_append, mem_atomsFrom (q ++ [i]) d,
      mem_slotsAtomsFrom q (i + 1) ds]
    constructor
    · rintro (⟨p, rfl, h⟩ | ⟨j, p, e, rfl, he, h⟩)
      · exact ⟨0, p, d, by simp, by simp, h⟩
      · exact ⟨j + 1, p, e, by simp; omega, by simpa using he, h⟩
    · rintro ⟨_ | j, p, e, rfl, he, h⟩
      · rw [List.getElem?_cons_zero, Option.some.injEq] at he
        subst he
        exact .inl ⟨p, by simp, h⟩
      · exact .inr ⟨j, p, e, by simp; omega, by simpa using he, h⟩
termination_by structural ds
end

mutual
/-- The paths of the atoms increase. -/
theorem atomsFrom_pairwise (q : Path) (d : Datum) :
    (d.atomsFrom q).Pairwise fun a b => a.1 < b.1 := by
  cases d with
  | list line slots => exact slotsAtomsFrom_pairwise q 0 slots
  | _ =>
    rw [Datum.atomsFrom_of_atom rfl]
    exact List.pairwise_singleton _ _
termination_by structural d

/-- So do those of a row of slots. -/
theorem slotsAtomsFrom_pairwise (q : Path) (i : Nat) (ds : List Datum) :
    (slotsAtomsFrom q i ds).Pairwise fun a b => a.1 < b.1 := by
  cases ds with
  | nil => exact List.Pairwise.nil
  | cons d ds =>
    rw [slotsAtomsFrom, List.pairwise_append]
    refine ⟨atomsFrom_pairwise (q ++ [i]) d, slotsAtomsFrom_pairwise q (i + 1) ds, ?_⟩
    rintro ⟨r, a⟩ hr ⟨r', a'⟩ hr'
    obtain ⟨p, rfl, -⟩ := (mem_atomsFrom _ d r a).mp hr
    obtain ⟨j, p', -, rfl, -⟩ := (mem_slotsAtomsFrom q (i + 1) ds r' a').mp hr'
    rw [List.append_assoc, List.singleton_append]
    exact Path.append_cons_lt (by omega) q p p'
termination_by structural ds
end

mutual
theorem map_snd_atomsFrom (q : Path) (d : Datum) : (d.atomsFrom q).map Prod.snd = d.atoms := by
  cases d with
  | list line slots => exact map_snd_slotsAtomsFrom q 0 slots
  | _ => rw [Datum.atomsFrom_of_atom rfl, Datum.atoms_of_atom rfl, List.map_singleton]
termination_by structural d

theorem map_snd_slotsAtomsFrom (q : Path) (i : Nat) (ds : List Datum) :
    (slotsAtomsFrom q i ds).map Prod.snd = slotsAtoms ds := by
  cases ds with
  | nil => rfl
  | cons d ds =>
    rw [slotsAtomsFrom, slotsAtoms, List.map_append, map_snd_atomsFrom (q ++ [i]) d,
      map_snd_slotsAtomsFrom q (i + 1) ds]
termination_by structural ds
end

namespace Datum

/-- An atom that equals `old` stands at a path of a datum. -/
def HasAtomAt (d old : Datum) (q : Path) : Prop :=
  ∃ a, d.get? q = some a ∧ a.isList = false ∧ (a == old) = true

/-- The paths at which it stands. -/
def places (d old : Datum) : List Path :=
  ((d.atomsFrom []).filter fun f => f.2 == old).map Prod.fst

theorem mem_places {d old : Datum} {q : Path} : q ∈ d.places old ↔ d.HasAtomAt old q := by
  simp only [places, List.mem_map, List.mem_filter, Prod.exists, mem_atomsFrom,
    List.nil_append]
  constructor
  · rintro ⟨_, a, ⟨⟨_, rfl, ha, hatom⟩, hequal⟩, rfl⟩
    exact ⟨a, ha, hatom, hequal⟩
  · rintro ⟨a, ha, hatom, hequal⟩
    exact ⟨q, a, ⟨⟨q, rfl, ha, hatom⟩, hequal⟩, rfl⟩

theorem places_pairwise (d old : Datum) : (d.places old).Pairwise (· < ·) :=
  List.pairwise_map.mpr ((atomsFrom_pairwise [] d).filter _)

/-- There are as many of them as atoms that equal `old`. -/
theorem length_places (d old : Datum) : (d.places old).length = d.atoms.countP (· == old) := by
  rw [places, List.length_map, ← List.countP_eq_length_filter, ← map_snd_atomsFrom [] d,
    List.countP_map]
  rfl

/-- No path has such an atom if no atom is one. -/
theorem forall_not_hasAtomAt_iff {d old : Datum} :
    (∀ q, ¬ d.HasAtomAt old q) ↔ ∀ a ∈ d.atoms, (a == old) = false := by
  calc (∀ q, ¬ d.HasAtomAt old q)
      ↔ d.places old = [] := by simp only [← mem_places, List.eq_nil_iff_forall_not_mem]
    _ ↔ d.atoms.countP (· == old) = 0 := by rw [← length_places, List.length_eq_zero_iff]
    _ ↔ ∀ a ∈ d.atoms, (a == old) = false := by
      simp only [List.countP_eq_zero, Bool.not_eq_true]

end Datum

/-! ## Substitution for atoms -/

mutual
/-- A datum with what a function makes of an atom in the place of each atom. -/
def Datum.substAtoms (f : Datum → Datum) : Datum → Datum
  | .list line slots => .list line (slotsSubstAtoms f slots)
  | d => f d
termination_by structural d => d

/-- The same for a row of slots. -/
def slotsSubstAtoms (f : Datum → Datum) : List Datum → List Datum
  | [] => []
  | d :: ds => d.substAtoms f :: slotsSubstAtoms f ds
termination_by structural ds => ds
end

section
variable (f g : Datum → Datum)

theorem Datum.substAtoms_of_atom {d : Datum} (h : d.isList = false) : d.substAtoms f = f d := by
  cases d with
  | list => cases h
  | _ => rfl

theorem slotsSubstAtoms_eq_map (ds : List Datum) :
    slotsSubstAtoms f ds = ds.map (Datum.substAtoms f) := by
  induction ds with
  | nil => rfl
  | cons d ds ih => rw [slotsSubstAtoms, ih, List.map_cons]

theorem Datum.substAtoms_list (line : Option Nat) (slots : List Datum) :
    (Datum.list line slots).substAtoms f = .list line (slots.map (Datum.substAtoms f)) := by
  rw [Datum.substAtoms, slotsSubstAtoms_eq_map]

mutual
/-- Substituting twice: what the first function has made is looked into. -/
theorem Datum.substAtoms_substAtoms (d : Datum) :
    (d.substAtoms f).substAtoms g = d.substAtoms fun a => (f a).substAtoms g := by
  cases d with
  | list line slots =>
    rw [Datum.substAtoms, Datum.substAtoms, Datum.substAtoms, slotsSubstAtoms_substAtoms slots]
  | _ => rfl
termination_by structural d

theorem slotsSubstAtoms_substAtoms (ds : List Datum) :
    slotsSubstAtoms g (slotsSubstAtoms f ds) =
      slotsSubstAtoms (fun a => (f a).substAtoms g) ds := by
  cases ds with
  | nil => rfl
  | cons d ds =>
    rw [slotsSubstAtoms, slotsSubstAtoms, slotsSubstAtoms, Datum.substAtoms_substAtoms d,
      slotsSubstAtoms_substAtoms ds]
termination_by structural ds
end

mutual
/-- The atoms of the result are those of what the function makes. -/
theorem Datum.atoms_substAtoms (d : Datum) :
    (d.substAtoms f).atoms = d.atoms.flatMap fun a => (f a).atoms := by
  cases d with
  | list line slots => exact slotsAtoms_substAtoms slots
  | _ =>
    -- one atom, so there is one part only
    exact (List.append_nil (f _).atoms).symm
termination_by structural d

theorem slotsAtoms_substAtoms (ds : List Datum) :
    slotsAtoms (slotsSubstAtoms f ds) = (slotsAtoms ds).flatMap fun a => (f a).atoms := by
  cases ds with
  | nil => rfl
  | cons d ds =>
    rw [slotsSubstAtoms, slotsAtoms, slotsAtoms, List.flatMap_append, Datum.atoms_substAtoms d,
      slotsAtoms_substAtoms ds]
termination_by structural ds
end

end

mutual
/-- Substitution depends on the atoms alone. -/
theorem Datum.substAtoms_congr {f g : Datum → Datum} (d : Datum)
    (h : ∀ a ∈ d.atoms, f a = g a) : d.substAtoms f = d.substAtoms g := by
  cases d with
  | list line slots => rw [Datum.substAtoms, Datum.substAtoms, slotsSubstAtoms_congr slots h]
  | _ =>
    rw [Datum.substAtoms_of_atom f rfl, Datum.substAtoms_of_atom g rfl]
    exact h _ (by rw [Datum.atoms_of_atom rfl]; exact List.mem_singleton_self _)
termination_by structural d

theorem slotsSubstAtoms_congr {f g : Datum → Datum} (ds : List Datum)
    (h : ∀ a ∈ slotsAtoms ds, f a = g a) : slotsSubstAtoms f ds = slotsSubstAtoms g ds := by
  cases ds with
  | nil => rfl
  | cons d ds =>
    rw [slotsAtoms, List.forall_mem_append] at h
    rw [slotsSubstAtoms, slotsSubstAtoms, Datum.substAtoms_congr d h.1,
      slotsSubstAtoms_congr ds h.2]
termination_by structural ds
end

mutual
/-- Where every atom stays, so does the datum. -/
theorem Datum.substAtoms_eq_self {f : Datum → Datum} (d : Datum)
    (h : ∀ a ∈ d.atoms, f a = a) : d.substAtoms f = d := by
  cases d with
  | list line slots => rw [Datum.substAtoms, slotsSubstAtoms_eq_self slots h]
  | _ =>
    rw [Datum.substAtoms_of_atom f rfl]
    exact h _ (by rw [Datum.atoms_of_atom rfl]; exact List.mem_singleton_self _)
termination_by structural d

theorem slotsSubstAtoms_eq_self {f : Datum → Datum} (ds : List Datum)
    (h : ∀ a ∈ slotsAtoms ds, f a = a) : slotsSubstAtoms f ds = ds := by
  cases ds with
  | nil => rfl
  | cons d ds =>
    rw [slotsAtoms, List.forall_mem_append] at h
    rw [slotsSubstAtoms, Datum.substAtoms_eq_self d h.1, slotsSubstAtoms_eq_self ds h.2]
termination_by structural ds
end

mutual
/-- The result equals the datum if what the function makes equals each atom. -/
theorem Datum.substAtoms_beq (f : Datum → Datum) (d : Datum) :
    Datum.beq (d.substAtoms f) d = d.atoms.all fun a => Datum.beq (f a) a := by
  cases d with
  | list line slots => exact slotsSubstAtoms_beq f slots
  | _ => exact (Bool.and_true _).symm
termination_by structural d

theorem slotsSubstAtoms_beq (f : Datum → Datum) (ds : List Datum) :
    Datum.beqSlots (slotsSubstAtoms f ds) ds = (slotsAtoms ds).all fun a => Datum.beq (f a) a := by
  cases ds with
  | nil => rfl
  | cons d ds =>
    rw [slotsSubstAtoms, Datum.beqSlots, slotsAtoms, List.all_append, Datum.substAtoms_beq f d,
      slotsSubstAtoms_beq f ds]
termination_by structural ds
end

/-- What stands at a path of a datum stands there in the result, with its own atoms
substituted. -/
theorem Datum.get?_substAtoms (f : Datum → Datum) {q : Path} {d c : Datum}
    (h : d.get? q = some c) : (d.substAtoms f).get? q = some (c.substAtoms f) := by
  induction q generalizing d with
  | nil =>
    rw [get?_nil] at h
    cases h
    exact get?_nil _
  | cons i q ih =>
    cases d with
    | list line slots =>
      rw [get?_cons_list] at h
      obtain ⟨e, he, hc⟩ := Option.bind_eq_some_iff.mp h
      rw [substAtoms_list, get?_cons_list, List.getElem?_map, he]
      exact ih hc
    | _ => cases h

namespace Node

/-- A node with what a function makes of an atom in the place of each atom. -/
def substAtoms (n : Node) (f : Datum → Datum) : Node :=
  ⟨n.line, n.slots.map (Datum.substAtoms f)⟩

theorem toDatum_substAtoms (n : Node) (f : Datum → Datum) :
    (n.substAtoms f).toDatum = n.toDatum.substAtoms f :=
  (Datum.substAtoms_list f n.line n.slots).symm

/-- Every path to a node leads to a node still, with the line and as many slots. -/
theorem at?_substAtoms (f : Datum → Datum) {n m : Node} {q : Path} (h : n.at? q = some m) :
    (n.substAtoms f).at? q = some (m.substAtoms f) := by
  rw [at?, n.toDatum_substAtoms, Datum.at?_eq_get?, Datum.get?_substAtoms f (Datum.get?_of_at? h),
    ← m.toDatum_substAtoms]
  rfl

end Node

/-! ## Atoms for atoms -/

/-- A function that makes atoms of atoms. -/
def KeepsAtoms (f : Datum → Datum) : Prop := ∀ a, a.isList = false → (f a).isList = false

section
variable {f : Datum → Datum}

/-- The atoms of the result are what the function makes of the atoms. -/
theorem KeepsAtoms.atoms_substAtoms (hf : KeepsAtoms f) (d : Datum) :
    (d.substAtoms f).atoms = d.atoms.map f := by
  rw [Datum.atoms_substAtoms, List.map_eq_flatMap, List.flatMap_def, List.flatMap_def]
  congr 1
  refine List.map_congr_left ?_
  intro a ha
  exact Datum.atoms_of_atom (hf a (Datum.isList_of_mem_atoms d ha))

mutual
/-- The walk visits the same paths. -/
theorem KeepsAtoms.walkFrom_substAtoms (hf : KeepsAtoms f) (q : Path) (d : Datum) :
    walkFrom q (d.substAtoms f) = (walkFrom q d).map (Prod.map id (Node.substAtoms · f)) := by
  cases d with
  | list line slots =>
    rw [Datum.substAtoms_list, walkFrom, walkFrom, List.map_cons,
      hf.walkSlots_substAtoms q 0 slots]
    rfl
  | _ => exact walkFrom_of_atom (hf _ rfl) q
termination_by structural d

theorem KeepsAtoms.walkSlots_substAtoms (hf : KeepsAtoms f) (q : Path) (i : Nat) (ds : List Datum) :
    walkSlots q i (ds.map (Datum.substAtoms f)) =
      (walkSlots q i ds).map (Prod.map id (Node.substAtoms · f)) := by
  cases ds with
  | nil => rfl
  | cons d ds =>
    rw [List.map_cons, walkSlots, walkSlots, List.map_append,
      hf.walkFrom_substAtoms (q ++ [i]) d, hf.walkSlots_substAtoms q (i + 1) ds]
termination_by structural ds
end

mutual
theorem KeepsAtoms.depth_substAtoms (hf : KeepsAtoms f) (d : Datum) :
    (d.substAtoms f).depth = d.depth := by
  cases d with
  | list line slots =>
    rw [Datum.substAtoms, Datum.depth, Datum.depth, hf.slotsDepth_substAtoms slots]
  | _ => exact Datum.depth_of_atom (hf _ rfl)
termination_by structural d

theorem KeepsAtoms.slotsDepth_substAtoms (hf : KeepsAtoms f) (ds : List Datum) :
    slotsDepth (slotsSubstAtoms f ds) = slotsDepth ds := by
  cases ds with
  | nil => rfl
  | cons d ds =>
    rw [slotsSubstAtoms, slotsDepth, slotsDepth, hf.depth_substAtoms d,
      hf.slotsDepth_substAtoms ds]
termination_by structural ds
end

mutual
theorem KeepsAtoms.lastLine_substAtoms (hf : KeepsAtoms f) (d : Datum) :
    (d.substAtoms f).lastLine = d.lastLine := by
  cases d with
  | list line slots =>
    rw [Datum.substAtoms, Datum.lastLine, Datum.lastLine,
      hf.slotsLastLine_substAtoms slots]
  | _ => exact Datum.lastLine_of_atom (hf _ rfl)
termination_by structural d

theorem KeepsAtoms.slotsLastLine_substAtoms (hf : KeepsAtoms f) (ds : List Datum) :
    slotsLastLine (slotsSubstAtoms f ds) = slotsLastLine ds := by
  cases ds with
  | nil => rfl
  | cons d ds =>
    rw [slotsSubstAtoms, slotsLastLine, slotsLastLine, hf.lastLine_substAtoms d,
      hf.slotsLastLine_substAtoms ds]
termination_by structural ds
end

end

/-! ## Renaming -/

/-- What a renaming makes of an atom. -/
def Datum.renamed (old new a : Datum) : Datum := if a == old then new else a

/-- An atom is replaced if it is the one that is renamed. -/
theorem Datum.replaceAtoms_of_atom (old new : Datum) {d : Datum} (h : d.isList = false) :
    Datum.replaceAtoms old new d = if d == old then (new, 1) else (d, 0) := by
  cases d with
  | list => cases h
  | _ => rfl

mutual
/-- Renaming is a substitution for atoms that counts what it replaces. -/
theorem Datum.replaceAtoms_eq (old new d : Datum) :
    Datum.replaceAtoms old new d =
      (d.substAtoms (Datum.renamed old new), d.atoms.countP (· == old)) := by
  cases d with
  | list line slots =>
    rw [Datum.replaceAtoms, slotsReplaceAtoms_eq old new slots]
    rfl
  | _ =>
    rw [Datum.replaceAtoms_of_atom old new rfl, Datum.substAtoms_of_atom _ rfl,
      Datum.atoms_of_atom rfl, List.countP_singleton, Datum.renamed]
    split <;> rfl
termination_by structural d

theorem slotsReplaceAtoms_eq (old new : Datum) (ds : List Datum) :
    slotsReplaceAtoms old new ds =
      (slotsSubstAtoms (Datum.renamed old new) ds, (slotsAtoms ds).countP (· == old)) := by
  cases ds with
  | nil => rfl
  | cons d ds =>
    rw [slotsReplaceAtoms, slotsSubstAtoms, slotsAtoms, List.countP_append,
      Datum.replaceAtoms_eq old new d, slotsReplaceAtoms_eq old new ds]
termination_by structural ds
end

theorem Node.replaceAtoms_eq (n : Node) (old new : Datum) :
    n.replaceAtoms old new =
      (n.substAtoms (Datum.renamed old new), n.toDatum.atoms.countP (· == old)) := by
  rw [replaceAtoms, slotsReplaceAtoms_eq, slotsSubstAtoms_eq_map]
  rfl

theorem Node.replaceAtoms_of_snd_eq_zero {n : Node} {old new : Datum}
    (h : (n.replaceAtoms old new).2 = 0) : (n.replaceAtoms old new).1 = n := by
  rw [n.replaceAtoms_eq, List.countP_eq_zero] at h
  rw [n.replaceAtoms_eq]
  apply toDatum_injective
  rw [toDatum_substAtoms]
  exact Datum.substAtoms_eq_self _ fun a ha => if_neg (h a ha)

end SexprQuery
