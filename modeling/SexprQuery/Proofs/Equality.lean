import SexprQuery.Pattern.Operand

/-!
# Equality of data and of patterns

`==` on data and on patterns goes through both sides together and is written by cases.
It is symmetric at every level, from floating-point numbers to operands, although it is
not reflexive: a NaN differs from itself, and so does everything with a NaN in it
(`Datum.beq_self_eq`, `Pattern.beq_self_eq`). On data it is transitive too, so a datum
with a NaN in it equals nothing at all (`Datum.hasNan_of_beq`).
-/

namespace SexprQuery

theorem Binary64.beq_comm (x y : Binary64) : (x == y) = (y == x) := by
  cases x <;> cases y <;> try rfl
  case infinite.infinite a b => exact BEq.comm (a := a) (b := b)
  case finite.finite a b =>
    show (a == b || (a.mantissa == 0 && b.mantissa == 0)) =
      (b == a || (b.mantissa == 0 && a.mantissa == 0))
    rw [BEq.comm (a := a), Bool.and_comm]

theorem Binary64.beq_self_of_ne_nan {x : Binary64} (h : x ≠ .nan) : (x == x) = true := by
  cases x with
  | nan => exact absurd rfl h
  | infinite negative => exact BEq.rfl (a := negative)
  | finite x =>
    show (x == x || (x.mantissa == 0 && x.mantissa == 0)) = true
    rw [BEq.rfl, Bool.true_or]

theorem Binary64.beq_trans {x y z : Binary64} (hxy : (x == y) = true) (hyz : (y == z) = true) :
    (x == z) = true := by
  cases x with
  | nan => cases hxy
  | infinite a =>
    cases y with
    | infinite b =>
      cases z with
      | infinite c => exact BEq.trans (a := a) (b := b) (c := c) hxy hyz
      | _ => cases hyz
    | _ => cases hxy
  | finite x =>
    cases y with
    | finite y =>
      cases z with
      | finite z =>
        -- numbers that are equal are the same one or are both zero
        have hor : ∀ u v : Finite64, (Binary64.finite u == .finite v) = true ↔
            u = v ∨ (u.mantissa = 0 ∧ v.mantissa = 0) := by
          intro u v
          show (u == v || (u.mantissa == 0 && v.mantissa == 0)) = true ↔ _
          simp
        rw [hor] at hxy hyz ⊢
        rcases hxy with rfl | ⟨hx, hy⟩
        · exact hyz
        · rcases hyz with rfl | ⟨-, hz⟩
          · exact .inr ⟨hx, hy⟩
          · exact .inr ⟨hx, hz⟩
      | _ => cases hyz
    | _ => cases hxy

namespace Datum

mutual
theorem beq_comm (d e : Datum) : Datum.beq d e = Datum.beq e d := by
  cases d <;> cases e <;> try rfl
  case bool.bool a b => exact BEq.comm (a := a) (b := b)
  case int.int a b => exact BEq.comm (a := a) (b := b)
  case float.float a b => exact a.beq_comm b
  case str.str a b => exact BEq.comm (a := a) (b := b)
  case sym.sym a b => exact BEq.comm (a := a) (b := b)
  case list.list _ ds _ es => exact beqSlots_comm ds es
termination_by structural d

theorem beqSlots_comm (ds es : List Datum) : beqSlots ds es = beqSlots es ds := by
  cases ds <;> cases es <;> try rfl
  case cons.cons d ds e es => rw [beqSlots, beqSlots, beq_comm d e, beqSlots_comm ds es]
termination_by structural ds
end

mutual
theorem beq_trans {d e f : Datum} (hde : Datum.beq d e = true) (hef : Datum.beq e f = true) :
    Datum.beq d f = true := by
  cases d <;> cases e <;> try exact absurd hde Bool.false_ne_true
  all_goals cases f <;> try exact absurd hef Bool.false_ne_true
  case nil.nil.nil => rfl
  case bool.bool.bool a b c => exact BEq.trans (a := a) (b := b) (c := c) hde hef
  case int.int.int a b c => exact BEq.trans (a := a) (b := b) (c := c) hde hef
  case float.float.float a b c => exact Binary64.beq_trans (x := a) (y := b) (z := c) hde hef
  case str.str.str a b c => exact BEq.trans (a := a) (b := b) (c := c) hde hef
  case sym.sym.sym a b c => exact BEq.trans (a := a) (b := b) (c := c) hde hef
  case list.list.list => exact beqSlots_trans hde hef
termination_by structural d

theorem beqSlots_trans {ds es fs : List Datum} (hde : beqSlots ds es = true)
    (hef : beqSlots es fs = true) : beqSlots ds fs = true := by
  cases ds <;> cases es <;> try exact absurd hde Bool.false_ne_true
  all_goals cases fs <;> try exact absurd hef Bool.false_ne_true
  case nil.nil.nil => rfl
  case cons.cons.cons d ds e es f fs =>
    rw [beqSlots, Bool.and_eq_true] at hde hef ⊢
    exact ⟨beq_trans hde.1 hef.1, beqSlots_trans hde.2 hef.2⟩
termination_by structural ds
end

mutual
/-- True if a datum is a NaN or has one inside it. -/
def hasNan : Datum → Bool
  | .float .nan => true
  | .list _ slots => slotsHaveNan slots
  | _ => false
termination_by structural d => d

/-- The same for a row of slots. -/
def slotsHaveNan : List Datum → Bool
  | [] => false
  | d :: ds => d.hasNan || slotsHaveNan ds
termination_by structural ds => ds
end

mutual
/-- A datum without a NaN equals itself, and no other one does. -/
theorem beq_self_eq (d : Datum) : Datum.beq d d = !d.hasNan := by
  cases d with
  | nil => rfl
  | bool b => exact BEq.rfl (a := b)
  | int n => exact BEq.rfl (a := n)
  | float x =>
    cases x with
    | nan => rfl
    | infinite negative => exact Binary64.beq_self_of_ne_nan (x := .infinite negative) nofun
    | finite y => exact Binary64.beq_self_of_ne_nan (x := .finite y) nofun
  | str s => exact BEq.rfl (a := s)
  | sym name => exact BEq.rfl (a := name)
  | list line slots => exact beqSlots_self_eq slots
termination_by structural d

theorem beqSlots_self_eq (ds : List Datum) : beqSlots ds ds = !slotsHaveNan ds := by
  cases ds with
  | nil => rfl
  | cons d ds =>
    rw [beqSlots, slotsHaveNan, beq_self_eq d, beqSlots_self_eq ds, Bool.not_or]
termination_by structural ds
end

/-- What equals something has no NaN in it. -/
theorem hasNan_of_beq {d e : Datum} (h : Datum.beq d e = true) : d.hasNan = false := by
  have hself : Datum.beq d d = true := beq_trans h ((beq_comm e d).trans h)
  rw [beq_self_eq, Bool.not_eq_true'] at hself
  exact hself

end Datum

namespace Pattern

mutual
theorem beq_comm (p q : Pattern) : Pattern.beq p q = Pattern.beq q p := by
  cases p <;> cases q <;> try rfl
  case tagged.tagged a b => exact a.beq_comm b
  case text.text a b => exact BEq.comm (a := a.source) (b := b.source)
  case includes.includes a b => exact beq_comm a b
  case within.within a b => exact beq_comm a b
  case sibling.sibling a b g c d h =>
    rw [Pattern.beq, Pattern.beq, beq_comm a c, beq_comm b d, BEq.comm (a := g)]
  case not.not a b => exact beq_comm a b
  case any.any as bs => exact beqList_comm as bs
  case all.all as bs => exact beqList_comm as bs
  case shape.shape as bs => exact beqList_comm as bs
  case equals.equals a b => exact a.beq_comm b
termination_by structural p

theorem beqList_comm (ps qs : List Pattern) : beqList ps qs = beqList qs ps := by
  cases ps <;> cases qs <;> try rfl
  case cons.cons p ps q qs => rw [beqList, beqList, beq_comm p q, beqList_comm ps qs]
termination_by structural ps
end

mutual
/-- True if a tag or a datum to compare with has a NaN in it. -/
def hasNan : Pattern → Bool
  | .tagged tag => tag.hasNan
  | .includes inner => inner.hasNan
  | .within inner => inner.hasNan
  | .not inner => inner.hasNan
  | .sibling subject follower _ => subject.hasNan || follower.hasNan
  | .any options => listHasNan options
  | .all required => listHasNan required
  | .shape elements => listHasNan elements
  | .equals d => d.hasNan
  | _ => false
termination_by structural p => p

/-- The same for a list of patterns. -/
def listHasNan : List Pattern → Bool
  | [] => false
  | p :: ps => p.hasNan || listHasNan ps
termination_by structural ps => ps
end

mutual
/-- A pattern without a NaN equals itself, and no other one does. -/
theorem beq_self_eq (p : Pattern) : Pattern.beq p p = !p.hasNan := by
  cases p with
  | wild | remaining | atom => rfl
  | tagged tag => exact tag.beq_self_eq
  | text re => exact BEq.rfl (a := re.source)
  | includes inner | within inner | not inner => exact beq_self_eq inner
  | sibling subject follower gap =>
    rw [Pattern.beq, hasNan, beq_self_eq subject, beq_self_eq follower, BEq.rfl, Bool.and_true,
      Bool.not_or]
  | any options | all options | shape options => exact beqList_self_eq options
  | equals value => exact value.beq_self_eq
termination_by structural p

theorem beqList_self_eq (ps : List Pattern) : beqList ps ps = !listHasNan ps := by
  cases ps with
  | nil => rfl
  | cons p ps => rw [beqList, listHasNan, beq_self_eq p, beqList_self_eq ps, Bool.not_or]
termination_by structural ps
end

end Pattern

/-- Case equality does not care which operand comes first. -/
theorem Operand.caseEq_comm (a b : Operand) : a.caseEq b = b.caseEq a := by
  cases a <;> cases b <;> try rfl
  case pattern.pattern p q => exact p.beq_comm q
  case datum.datum d e => exact d.beq_comm e

end SexprQuery
