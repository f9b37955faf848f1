import SexprQuery.Proofs.Substitution

/-!
# Updating a tree at a path

A replacement at a path is an update of one place and of nothing else. What `Datum.put` puts
is read back at its path (`get?_put`), a second datum put there takes the place of the first
(`put_put`), a node put in its own place changes nothing (`put_toDatum`), and at paths
that part ways the order does not matter (`put_comm`). The nodes on the way to the path
keep their line and all slots but one (`Node.exists_at?_replaceAt_above`).

`Node.replaceAt?_lawful` says this of `Node.replaceAt?`, together with when it replaces
anything at all.
-/

namespace SexprQuery

theorem Path.Apart.ne_nil {p q : Path} (h : Path.Apart p q) : p ≠ [] := by
  rintro rfl
  exact h.1 List.nil_prefix

/-- Paths part ways behind a common step if they do at all. -/
theorem Path.Apart.of_cons {i : Nat} {p q : Path} (h : Path.Apart (i :: p) (i :: q)) :
    Path.Apart p q := by
  rwa [Path.Apart, List.prefix_cons_inj, List.prefix_cons_inj] at h

namespace Datum

/-- What is put where a list was put goes in its place. An atom cannot be replaced, so it
would stay. -/
theorem put_put (f : Datum) {e : Datum} (he : e.isList = true) (p : Path) (d : Datum) :
    put f p (put e p d) = put f p d := by
  induction p generalizing d with
  | nil =>
    cases d with
    | list line slots =>
      rw [put_nil_list, put_nil_list, put, if_pos he]
    | _ => rfl
  | cons i p ih =>
    cases d with
    | list line slots =>
      rw [put_cons_list, put_cons_list, put_cons_list, List.modify_modify_eq]
      congr 2
      exact funext ih
    | _ => rfl

/-- Data that are put at paths apart do not see each other. -/
theorem put_comm (e f : Datum) {p q : Path} (h : Path.Apart p q) (d : Datum) :
    put f q (put e p d) = put e p (put f q d) := by
  induction p generalizing q d with
  | nil => exact absurd rfl h.ne_nil
  | cons i p ih =>
    cases q with
    | nil => exact absurd List.nil_prefix h.2
    | cons j q =>
      cases d with
      | list line slots =>
        simp only [put_cons_list]
        congr 1
        by_cases hij : i = j
        · -- the paths part further down, below the same slot
          subst hij
          rw [List.modify_modify_eq, List.modify_modify_eq]
          congr 1
          exact funext fun c => ih h.of_cons c
        · exact List.modify_modify_ne _ _ _ hij
      | _ => rfl

/-- Seen from a node on the way, something is put further down. -/
theorem get?_put_append (e : Datum) (q r : Path) (d : Datum) :
    (put e (q ++ r) d).get? q = (d.get? q).map (put e r) := by
  induction q generalizing d with
  | nil => rw [List.nil_append, get?_nil, get?_nil, Option.map_some]
  | cons i q ih =>
    cases d with
    | list line slots =>
      rw [List.cons_append, put_cons_list, get?_cons_list, get?_cons_list,
        List.getElem?_modify_eq]
      cases slots[i]? with
      | none => rfl
      | some c => exact ih c
    | _ => rfl

end Datum

namespace Node

variable {n m : Node} {p q : Path}

/-- A node above a replacement keeps its line, and all of its slots but the one that the
path goes through. -/
theorem exists_at?_replaceAt_above (h : n.at? q = some m) (i : Nat) (r : Path) (d : Datum) :
    ∃ m', (n.replaceAt (q ++ i :: r) d).at? q = some m' ∧ m'.line = m.line ∧
      m'.slots.length = m.slots.length ∧ ∀ j, j ≠ i → m'.slots[j]? = m.slots[j]? := by
  refine ⟨⟨m.line, m.slots.modify i (Datum.put d r)⟩, ?_, rfl, List.length_modify .., ?_⟩
  · rw [at?, n.toDatum_replaceAt (by simp), Datum.at?_eq_get?, Datum.get?_put_append,
      Datum.get?_of_at? h]
    rfl
  · intro j hj
    exact List.getElem?_modify_ne _ _ (Ne.symm hj)

/-- The node that was replaced can be put back if a node stands in its place, and then the
tree is what it was before. -/
theorem replaceAt?_replaceAt (hp : p ≠ []) (h : n.at? p = some m) (d : Datum) :
    (n.replaceAt p d).replaceAt? p m.toDatum = d.node?.map fun k => (k, n) := by
  have hstands : (n.replaceAt p d).at? p = d.node? := by
    rw [at?, n.toDatum_replaceAt hp, Datum.at?_eq_get?, Datum.get?_put d h, Option.bind_some]
  rw [replaceAt?_eq _ hp, hstands]
  cases hd : d.node? with
  | none => rfl
  | some k =>
    have hlist : d.isList = true := by
      rw [Datum.eq_toDatum_of_node? hd]
      rfl
    have hback : (n.replaceAt p d).replaceAt p m.toDatum = n := by
      apply toDatum_injective
      rw [toDatum_replaceAt _ hp, n.toDatum_replaceAt hp, Datum.put_put _ hlist,
        Datum.put_toDatum h]
    rw [hback]

/-- Replacements at paths apart can be done in either order. -/
theorem replaceAt_comm (n : Node) (h : Path.Apart p q) (d e : Datum) :
    (n.replaceAt p d).replaceAt q e = (n.replaceAt q e).replaceAt p d := by
  have hp := h.ne_nil
  have hq : q ≠ [] := Path.Apart.ne_nil h.symm
  apply toDatum_injective
  rw [toDatum_replaceAt _ hq, toDatum_replaceAt _ hp, toDatum_replaceAt _ hp,
    toDatum_replaceAt _ hq, Datum.put_comm d e h]

/-- **Updating at a path.** A replacement finds something exactly if the path leads to a node
below the root, and gives that node; otherwise the tree stays as it is. Behind it the new
datum stands at the path, every path apart from it leads to what it led to before, and every
node above it has its line and all slots but the one on the way. The old node can be put
back if the new datum is a node, which restores the tree with its lines. Replacements at
paths apart find the same nodes and leave the same tree in either order. -/
theorem replaceAt?_lawful (n : Node) (p : Path) (d : Datum) :
    (∀ old, (∃ n', n.replaceAt? p d = some (old, n')) ↔ p ≠ [] ∧ n.at? p = some old) ∧
    (n.replaceAt? p d = none → n.replaceAt p d = n) ∧
    (∀ old n', n.replaceAt? p d = some (old, n') →
      n.replaceAt p d = n' ∧ n'.toDatum.get? p = some d ∧
      (∀ q, Path.Apart p q → n'.at? q = n.at? q) ∧
      (∀ q i r m, p = q ++ i :: r → n.at? q = some m →
        ∃ m', n'.at? q = some m' ∧ m'.line = m.line ∧ m'.slots.length = m.slots.length ∧
          ∀ j, j ≠ i → m'.slots[j]? = m.slots[j]?) ∧
      n'.replaceAt? p old.toDatum = d.node?.map fun k => (k, n)) ∧
    ∀ q e, Path.Apart p q →
      ((n.replaceAt p d).replaceAt? q e).map Prod.fst = (n.replaceAt? q e).map Prod.fst ∧
      (n.replaceAt p d).replaceAt q e = (n.replaceAt q e).replaceAt p d := by
  have hfinds : ∀ old n', n.replaceAt? p d = some (old, n') →
      p ≠ [] ∧ n.at? p = some old ∧ n.replaceAt p d = n' := by
    intro old n' h
    have hp : p ≠ [] := by
      rintro rfl
      cases h
    rw [n.replaceAt?_eq hp] at h
    obtain ⟨m, hm, heq⟩ := Option.map_eq_some_iff.mp h
    cases heq
    exact ⟨hp, hm, rfl⟩
  refine ⟨?_, ?_, ?_, ?_⟩
  · intro old
    constructor
    · rintro ⟨n', h⟩
      obtain ⟨hp, hold, -⟩ := hfinds old n' h
      exact ⟨hp, hold⟩
    · rintro ⟨hp, hold⟩
      exact replaceAt?_of_at? hp hold d
  · intro h
    rw [replaceAt, h]
    rfl
  · intro old n' h
    obtain ⟨hp, hold, rfl⟩ := hfinds old n' h
    refine ⟨rfl, ?_, ?_, ?_, replaceAt?_replaceAt hp hold d⟩
    · rw [n.toDatum_replaceAt hp, Datum.get?_put d hold]
    · intro q hpq
      exact n.at?_replaceAt_of_apart hpq.1 hpq.2 d
    · rintro q i r m rfl hm
      exact exists_at?_replaceAt_above hm i r d
  · intro q e hpq
    have hq : q ≠ [] := Path.Apart.ne_nil hpq.symm
    refine ⟨?_, n.replaceAt_comm hpq d e⟩
    rw [map_fst_replaceAt? _ hq, map_fst_replaceAt? _ hq,
      n.at?_replaceAt_of_apart hpq.1 hpq.2]

/-- An atom in the place of a node cannot be replaced any more. -/
example :
    let n : Node := ⟨some 1, [.sym "a", .list (some 2) [.sym "b"]]⟩
    ((n.replaceAt [1] (.sym "x")).replaceAt? [1] (.list (some 2) [.sym "b"])).isNone = true := by
  decide

end Node

end SexprQuery
