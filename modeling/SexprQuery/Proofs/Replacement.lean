import SexprQuery.Proofs.Walk

/-!
# Replacing at a path

`Datum.put` is replacement as a recursion on the path alone: where the path leads
to no node nothing happens, and a datum can be put in the place of the root too.
Below the root it is what `Node.replaceAt` does (`Node.toDatum_replaceAt`).

* `replaceAt?_of_at?` — a path to a node below the root can be replaced;
* `at?_replaceAt_of_apart` — a replacement is seen only along its own path.
-/

namespace SexprQuery

/-- Put `e` in the place of the node at a path. -/
def Datum.put (e : Datum) : Path → Datum → Datum
  | [], d => if d.isList then e else d
  | i :: p, .list line slots => .list line (slots.modify i (put e p))
  | _ :: _, d => d

namespace Datum

theorem put_nil_list (e : Datum) (line : Option Nat) (slots : List Datum) :
    put e [] (.list line slots) = e := rfl

theorem put_cons_list (e : Datum) (i : Nat) (p : Path) (line : Option Nat)
    (slots : List Datum) :
    put e (i :: p) (.list line slots) = .list line (slots.modify i (put e p)) := rfl

/-- Nothing can be put into an atom. -/
theorem put_of_atom (e : Datum) (p : Path) {d : Datum} (h : d.isList = false) :
    put e p d = d := by
  cases d with
  | list => cases h
  | _ => cases p <;> rfl

/-- A step through a slot that holds a node. -/
theorem put_cons_of_node (e : Datum) (p : Path) (line : Option Nat) {i : Nat}
    {slots : List Datum} {m : Node} (h : slots[i]?.bind node? = some m) :
    put e (i :: p) (.list line slots) = .list line (slots.set i (put e p m.toDatum)) := by
  obtain ⟨c, hc, hm⟩ := Option.bind_eq_some_iff.mp h
  rw [put_cons_list, List.modify_eq_set, hc, Option.getD_some, eq_toDatum_of_node? hm]

/-- A path through a slot that holds no node leads nowhere. -/
theorem put_cons_of_no_node (e : Datum) (p : Path) (line : Option Nat) {i : Nat}
    {slots : List Datum} (h : slots[i]?.bind node? = none) :
    put e (i :: p) (.list line slots) = .list line slots := by
  rw [put_cons_list]
  congr 1
  apply List.ext_getElem?
  intro j
  by_cases hij : i = j
  · subst hij
    rw [List.getElem?_modify_eq]
    cases hc : slots[i]? with
    | none => rfl
    | some c =>
      have hatom : c.isList = false := by
        rw [hc] at h
        cases c <;> first | rfl | cases h
      rw [Option.map_eq_map, Option.map_some, put_of_atom e p hatom]
  · rw [List.getElem?_modify_ne _ _ hij]

/-- What stands at a path, atom or list. -/
def get? : Path → Datum → Option Datum
  | [], d => some d
  | i :: p, .list _ slots => slots[i]?.bind (get? p)
  | _ :: _, _ => none

theorem get?_nil (d : Datum) : d.get? [] = some d := by
  cases d <;> rfl

theorem get?_cons_list (i : Nat) (p : Path) (line : Option Nat) (slots : List Datum) :
    (Datum.list line slots).get? (i :: p) = slots[i]?.bind (get? p) := rfl

/-- A path leads to the node that stands there. -/
theorem at?_eq_get? (p : Path) (d : Datum) : d.at? p = (d.get? p).bind node? := by
  induction p generalizing d with
  | nil => rw [at?_nil, get?_nil, Option.bind_some]
  | cons i p ih =>
    cases d with
    | list line slots =>
      rw [at?_cons_list, get?_cons_list, Option.bind_assoc]
      exact Option.bind_congr fun c _ => ih c
    | _ => rfl

/-- Where a path leads to a node, that node stands. -/
theorem get?_of_at? {p : Path} {d : Datum} {m : Node} (h : d.at? p = some m) :
    d.get? p = some m.toDatum := by
  rw [at?_eq_get?] at h
  obtain ⟨c, hc, hm⟩ := Option.bind_eq_some_iff.mp h
  rw [hc, eq_toDatum_of_node? hm]

/-- Looking a path up in two parts. -/
theorem get?_append (p q : Path) (d : Datum) : d.get? (p ++ q) = (d.get? p).bind (get? q) := by
  induction p generalizing d with
  | nil => rw [List.nil_append, get?_nil, Option.bind_some]
  | cons i p ih =>
    cases d with
    | list line slots =>
      rw [List.cons_append, get?_cons_list, get?_cons_list, Option.bind_assoc]
      exact Option.bind_congr fun c _ => ih c
    | _ => rfl

/-- What was put in the place of a node stands there. -/
theorem get?_put (e : Datum) {p : Path} {d : Datum} {m : Node} (h : d.at? p = some m) :
    (put e p d).get? p = some e := by
  induction p generalizing d with
  | nil =>
    rw [at?_nil] at h
    rw [eq_toDatum_of_node? h, get?_nil]
    rfl
  | cons i p ih =>
    cases d with
    | list line slots =>
      rw [at?_cons_list] at h
      obtain ⟨c, hc, hm⟩ := Option.bind_eq_some_iff.mp h
      rw [put_cons_list, get?_cons_list, List.getElem?_modify_eq, hc]
      exact ih hm
    | _ => cases h

/-- A node that is put in its own place. -/
theorem put_toDatum {p : Path} {d : Datum} {m : Node} (h : d.at? p = some m) :
    put m.toDatum p d = d := by
  induction p generalizing d with
  | nil =>
    rw [at?_nil] at h
    rw [eq_toDatum_of_node? h]
    rfl
  | cons i p ih =>
    cases d with
    | list line slots =>
      rw [at?_cons_list] at h
      obtain ⟨c, hc, hm⟩ := Option.bind_eq_some_iff.mp h
      obtain ⟨hi, rfl⟩ := List.getElem?_eq_some_iff.mp hc
      rw [put_cons_list, List.modify_eq_set, hc, Option.getD_some, ih hm, List.set_getElem_self]
    | _ => cases h

/-- At a path apart from the replaced one stands what stood there before. -/
theorem get?_put_of_apart (e : Datum) {p q : Path} (hpq : ¬ p <+: q) (hqp : ¬ q <+: p)
    (d : Datum) : (put e p d).get? q = d.get? q := by
  induction p generalizing q d with
  | nil => exact absurd List.nil_prefix hpq
  | cons i p ih =>
    cases q with
    | nil => exact absurd List.nil_prefix hqp
    | cons j q =>
      cases d with
      | list line slots =>
        rw [put_cons_list, get?_cons_list, get?_cons_list, List.getElem?_modify]
        by_cases hij : i = j
        · subst hij
          -- the paths part further down, so the slot is not seen as changed either
          rw [List.prefix_cons_inj] at hpq hqp
          cases slots[i]? with
          | none => rfl
          | some c => simp [ih hpq hqp c]
        · simp [hij]
      | _ => rfl

/-- A path apart from the replaced one leads to the same node as before. -/
theorem at?_put_of_apart (e : Datum) {p q : Path} (hpq : ¬ p <+: q) (hqp : ¬ q <+: p)
    (d : Datum) : (put e p d).at? q = d.at? q := by
  rw [at?_eq_get?, at?_eq_get?, get?_put_of_apart e hpq hqp]

end Datum

/-! ## Replacement in a tree -/

theorem replaceInSlots_singleton (e : Datum) (i : Nat) (slots : List Datum) :
    replaceInSlots e [i] slots =
      (slots[i]?.bind Datum.node?).map fun old => (old, slots.set i e) := by
  rw [replaceInSlots]
  cases slots[i]? with
  | none => rfl
  | some c => cases c <;> rfl

theorem replaceInSlots_cons (e : Datum) (i : Nat) {p : Path} (hp : p ≠ [])
    (slots : List Datum) :
    replaceInSlots e (i :: p) slots =
      (slots[i]?.bind Datum.node?).bind fun child =>
        (replaceInSlots e p child.slots).map fun r =>
          (r.1, slots.set i (.list child.line r.2)) := by
  rw [replaceInSlots.eq_3 _ _ _ _ hp]
  cases slots[i]? with
  | none => rfl
  | some c =>
    cases c with
    | list line below =>
      show (replaceInSlots e p below).bind _ = (replaceInSlots e p below).map _
      cases replaceInSlots e p below <;> rfl
    | _ => rfl

/-- The slots after a replacement, in terms of `put`. -/
theorem put_list_eq (e : Datum) (line : Option Nat) {p : Path} (hp : p ≠ [])
    (slots : List Datum) :
    Datum.put e p (.list line slots) =
      .list line (((replaceInSlots e p slots).map Prod.snd).getD slots) := by
  induction p generalizing line slots with
  | nil => exact absurd rfl hp
  | cons i p ih =>
    cases h : slots[i]?.bind Datum.node? with
    | none =>
      rw [Datum.put_cons_of_no_node e p line h]
      by_cases hp' : p = []
      · rw [hp', replaceInSlots_singleton, h]
        rfl
      · rw [replaceInSlots_cons e i hp', h]
        rfl
    | some m =>
      rw [Datum.put_cons_of_node e p line h]
      by_cases hp' : p = []
      · rw [hp', replaceInSlots_singleton, h]
        rfl
      · rw [replaceInSlots_cons e i hp', h, Option.bind_some, Node.toDatum, ih m.line hp' m.slots]
        cases replaceInSlots e p m.slots with
        | some r => rfl
        | none =>
          -- nothing was replaced, so the slot is put back as it was
          show Datum.list line (slots.set i m.toDatum) = .list line slots
          obtain ⟨c, hc, hm⟩ := Option.bind_eq_some_iff.mp h
          rw [← Datum.eq_toDatum_of_node? hm]
          obtain ⟨hi, rfl⟩ := List.getElem?_eq_some_iff.mp hc
          rw [List.set_getElem_self]

/-- Below the root, replacing is putting. -/
theorem Node.toDatum_replaceAt (n : Node) {p : Path} (hp : p ≠ []) (e : Datum) :
    (n.replaceAt p e).toDatum = Datum.put e p n.toDatum := by
  show _ = Datum.put e p (.list n.line n.slots)
  rw [put_list_eq e n.line hp, Node.replaceAt, Node.replaceAt?]
  cases replaceInSlots e p n.slots <;> rfl

/-- A replacement below a row of slots gives the node that the path leads to. -/
theorem map_fst_replaceInSlots (e : Datum) (line : Option Nat) {p : Path} (hp : p ≠ [])
    (slots : List Datum) :
    (replaceInSlots e p slots).map Prod.fst = (Datum.list line slots).at? p := by
  induction p generalizing line slots with
  | nil => exact absurd rfl hp
  | cons i p ih =>
    rw [Datum.at?_cons_list]
    by_cases hp' : p = []
    · rw [hp', replaceInSlots_singleton, Option.map_map]
      cases slots[i]? with
      | none => rfl
      | some c => cases c <;> rfl
    · rw [replaceInSlots_cons e i hp']
      cases slots[i]? with
      | none => rfl
      | some c =>
        cases c with
        | list l below =>
          show ((replaceInSlots e p below).map _).map Prod.fst = (Datum.list l below).at? p
          rw [Option.map_map, ← ih l hp' below]
          rfl
        | _ => exact (Datum.at?_eq_none_of_atom rfl p).symm

/-- Below the root, what comes back is the node at the path. -/
theorem Node.map_fst_replaceAt? (n : Node) {p : Path} (hp : p ≠ []) (e : Datum) :
    (n.replaceAt? p e).map Prod.fst = n.at? p := by
  rw [Node.replaceAt?, Option.map_map]
  exact map_fst_replaceInSlots e n.line hp n.slots

/-- So a path below the root can be replaced exactly where it leads to a node. -/
theorem Node.replaceAt?_eq (n : Node) {p : Path} (hp : p ≠ []) (e : Datum) :
    n.replaceAt? p e = (n.at? p).map fun old => (old, n.replaceAt p e) := by
  rw [← n.map_fst_replaceAt? hp e, Node.replaceAt]
  cases n.replaceAt? p e <;> rfl

/-- A path to a node below the root can be replaced, and that node comes back. -/
theorem Node.replaceAt?_of_at? {n m : Node} {p : Path} (hp : p ≠ []) (h : n.at? p = some m)
    (e : Datum) : ∃ tree, n.replaceAt? p e = some (m, tree) :=
  ⟨n.replaceAt p e, by rw [n.replaceAt?_eq hp, h, Option.map_some]⟩

/-- A path apart from the replaced one leads to the same node as before. -/
theorem Node.at?_replaceAt_of_apart (n : Node) {p q : Path} (hpq : ¬ p <+: q)
    (hqp : ¬ q <+: p) (e : Datum) : (n.replaceAt p e).at? q = n.at? q := by
  have hp : p ≠ [] := by
    rintro rfl
    exact hpq List.nil_prefix
  rw [Node.at?, n.toDatum_replaceAt hp e, Datum.at?_put_of_apart e hpq hqp]
  rfl

end SexprQuery
