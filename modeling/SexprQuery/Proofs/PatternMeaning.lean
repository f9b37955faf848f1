import SexprQuery.Pattern.Printer

/-!
# Patterns of equal meaning

Two changes of the data in a pattern keep what it is satisfied by and how it is
written:

* `Pattern.unlined` takes the lines off, which no test looks at;
* `Pattern.structural` turns every list that a datum is compared with into the shape
  of its slots, down to the atoms.

Both go through a pattern and touch its data only, so both are a `Pattern.mapData`,
and what they keep is shown once for that (`satisfies_mapData`, `sourceChars_mapData`).
-/

namespace SexprQuery

/-! ## Data without lines -/

namespace Datum

mutual
/-- A datum as if it had not been read from text. -/
def unlined : Datum → Datum
  | .list _ slots => .list none (slotsUnlined slots)
  | d => d
termination_by structural d => d

/-- The same for a row of slots. -/
def slotsUnlined : List Datum → List Datum
  | [] => []
  | d :: ds => d.unlined :: slotsUnlined ds
termination_by structural ds => ds
end

mutual
/-- Equality does not see lines. -/
theorem beq_unlined (d e : Datum) : d.beq e.unlined = d.beq e := by
  cases e with
  | list line slots =>
    cases d with
    | list l as => exact beqSlots_unlined as slots
    | _ => rfl
  | _ => rfl
termination_by structural e

theorem beqSlots_unlined (ds es : List Datum) :
    beqSlots ds (slotsUnlined es) = beqSlots ds es := by
  cases es with
  | nil => rfl
  | cons e es =>
    cases ds with
    | nil => rfl
    | cons d ds => rw [slotsUnlined, beqSlots, beqSlots, beq_unlined d e, beqSlots_unlined ds es]
termination_by structural es
end

mutual
theorem literalChars_unlined (d : Datum) : d.unlined.literalChars = d.literalChars := by
  cases d with
  | list line slots => rw [unlined, literalChars, literalChars, literalSlots_unlined slots]
  | _ => rfl
termination_by structural d

theorem literalSlots_unlined (ds : List Datum) :
    literalSlots (slotsUnlined ds) = literalSlots ds := by
  cases ds with
  | nil => rfl
  | cons d ds =>
    rw [slotsUnlined, literalSlots, literalSlots, literalChars_unlined d, literalMore_unlined ds]
termination_by structural ds

theorem literalMore_unlined (ds : List Datum) :
    literalMore (slotsUnlined ds) = literalMore ds := by
  cases ds with
  | nil => rfl
  | cons d ds =>
    rw [slotsUnlined, literalMore, literalMore, literalChars_unlined d, literalMore_unlined ds]
termination_by structural ds
end

/-! ## Data as shapes -/

mutual
/-- The pattern that asks for a datum slot by slot. -/
def structural : Datum → Pattern
  | .list _ slots => .shape (slotsStructural slots)
  | d => .equals d
termination_by structural d => d

/-- The same for a row of slots. -/
def slotsStructural : List Datum → List Pattern
  | [] => []
  | d :: ds => d.structural :: slotsStructural ds
termination_by structural ds => ds
end

theorem structural_ne_remaining (d : Datum) : d.structural ≠ .remaining := by
  cases d <;> rintro ⟨⟩

end Datum

namespace Pattern

/-! ## Shapes -/

theorem fits_cons_cons {p : Pattern} {ps : List Pattern} (h : p = .remaining → ps ≠ [])
    (d : Datum) (ds : List Datum) : fits (p :: ps) (d :: ds) = (p.satisfies d && fits ps ds) := by
  rw [fits]
  exact fun hp hps => h hp hps

theorem fits_cons_nil {p : Pattern} {ps : List Pattern} (h : p = .remaining → ps ≠ []) :
    fits (p :: ps) [] = false := by
  rw [fits]
  exact fun hp hps => h hp hps

mutual
/-- A shape made of a datum accepts what equals the datum. -/
theorem satisfies_structural (value d : Datum) : value.structural.satisfies d = (d == value) := by
  cases value with
  | list line slots =>
    cases d with
    | list l ds => exact fits_slotsStructural slots ds
    | _ => rfl
  | _ => rfl
termination_by structural value

theorem fits_slotsStructural (values ds : List Datum) :
    fits (Datum.slotsStructural values) ds = Datum.beqSlots ds values := by
  cases values with
  | nil => cases ds <;> rfl
  | cons value values =>
    have hvalue : value.structural = .remaining → Datum.slotsStructural values ≠ [] := fun h =>
      absurd h value.structural_ne_remaining
    rw [Datum.slotsStructural]
    cases ds with
    | nil =>
      rw [fits_cons_nil hvalue]
      rfl
    | cons d ds =>
      rw [fits_cons_cons hvalue, satisfies_structural value d, fits_slotsStructural values ds]
      rfl
termination_by structural values
end

mutual
theorem sourceChars_structural (value : Datum) :
    value.structural.sourceChars = value.literalChars := by
  cases value with
  | list line slots =>
    rw [Datum.structural, sourceChars, Datum.literalChars, sourceElements_structural slots]
  | _ => rfl
termination_by structural value

theorem sourceElements_structural (values : List Datum) :
    sourceElements (Datum.slotsStructural values) = literalSlots values := by
  cases values with
  | nil => rfl
  | cons value values =>
    rw [Datum.slotsStructural, sourceElements, literalSlots, sourceChars_structural value,
      sourceMore_structural values]
termination_by structural values

theorem sourceMore_structural (values : List Datum) :
    sourceMore (Datum.slotsStructural values) = literalMore values := by
  cases values with
  | nil => rfl
  | cons value values =>
    rw [Datum.slotsStructural, sourceMore, literalMore, sourceChars_structural value,
      sourceMore_structural values]
termination_by structural values
end

/-! ## Changing the data of a pattern -/

mutual
/-- A pattern with its tags and the data it compares with changed. -/
def mapData (onTag : Datum → Datum) (onValue : Datum → Pattern) : Pattern → Pattern
  | .tagged tag => .tagged (onTag tag)
  | .equals value => onValue value
  | .includes inner => .includes (inner.mapData onTag onValue)
  | .within inner => .within (inner.mapData onTag onValue)
  | .sibling subject follower gap =>
    .sibling (subject.mapData onTag onValue) (follower.mapData onTag onValue) gap
  | .not inner => .not (inner.mapData onTag onValue)
  | .any options => .any (listMapData onTag onValue options)
  | .all required => .all (listMapData onTag onValue required)
  | .shape elements => .shape (listMapData onTag onValue elements)
  | p => p
termination_by structural p => p

/-- The same for a list of patterns. -/
def listMapData (onTag : Datum → Datum) (onValue : Datum → Pattern) : List Pattern → List Pattern
  | [] => []
  | p :: ps => p.mapData onTag onValue :: listMapData onTag onValue ps
termination_by structural ps => ps
end

theorem listMapData_eq_map (onTag : Datum → Datum) (onValue : Datum → Pattern)
    (ps : List Pattern) : listMapData onTag onValue ps = ps.map (mapData onTag onValue) := by
  induction ps with
  | nil => rfl
  | cons p ps ih => rw [listMapData, ih, List.map_cons]

mutual
/-- One change after another. -/
theorem mapData_mapData (onTag onTag' : Datum → Datum) (onValue onValue' : Datum → Pattern)
    (p : Pattern) :
    (p.mapData onTag onValue).mapData onTag' onValue' =
      p.mapData (onTag' ∘ onTag) fun value => (onValue value).mapData onTag' onValue' := by
  cases p with
  | wild | remaining | text | atom | tagged | equals => rfl
  | includes inner => exact congrArg includes (mapData_mapData _ _ _ _ inner)
  | within inner => exact congrArg within (mapData_mapData _ _ _ _ inner)
  | not inner => exact congrArg Pattern.not (mapData_mapData _ _ _ _ inner)
  | sibling subject follower gap =>
    simp only [mapData, mapData_mapData _ _ _ _ subject, mapData_mapData _ _ _ _ follower]
  | any options => exact congrArg any (listMapData_listMapData _ _ _ _ options)
  | all required => exact congrArg all (listMapData_listMapData _ _ _ _ required)
  | shape elements => exact congrArg shape (listMapData_listMapData _ _ _ _ elements)
termination_by structural p

theorem listMapData_listMapData (onTag onTag' : Datum → Datum) (onValue onValue' : Datum → Pattern)
    (ps : List Pattern) :
    listMapData onTag' onValue' (listMapData onTag onValue ps) =
      listMapData (onTag' ∘ onTag) (fun value => (onValue value).mapData onTag' onValue') ps := by
  cases ps with
  | nil => rfl
  | cons p ps =>
    simp only [listMapData, mapData_mapData _ _ _ _ p, listMapData_listMapData _ _ _ _ ps]
termination_by structural ps
end

/-- A pattern as if its data had not been read from text. -/
def unlined (p : Pattern) : Pattern := p.mapData Datum.unlined fun value => .equals value.unlined

@[simp] theorem unlined_any (ps : List Pattern) : (any ps).unlined = .any (ps.map unlined) :=
  congrArg any (listMapData_eq_map _ _ ps)

@[simp] theorem unlined_all (ps : List Pattern) : (all ps).unlined = .all (ps.map unlined) :=
  congrArg all (listMapData_eq_map _ _ ps)

@[simp] theorem unlined_shape (ps : List Pattern) : (shape ps).unlined = .shape (ps.map unlined) :=
  congrArg shape (listMapData_eq_map _ _ ps)

/-- A pattern that compares with atoms only. -/
def structural (p : Pattern) : Pattern := p.mapData id Datum.structural

/-- A change of data that no test sees. -/
structure KeepsMeaning (onTag : Datum → Datum) (onValue : Datum → Pattern) : Prop where
  tag : ∀ tag d : Datum, (d == onTag tag) = (d == tag)
  value : ∀ value d : Datum, (onValue value).satisfies d = (d == value)
  ne_remaining : ∀ value, onValue value ≠ .remaining

/-- A change of data that pattern text does not show. -/
structure KeepsText (onTag : Datum → Datum) (onValue : Datum → Pattern) : Prop where
  tag : ∀ tag, (onTag tag).literalChars = tag.literalChars
  value : ∀ value, (onValue value).sourceChars = value.literalChars

section
variable {onTag : Datum → Datum} {onValue : Datum → Pattern}

theorem KeepsMeaning.mapData_eq_remaining (h : KeepsMeaning onTag onValue) {p : Pattern}
    (hp : p.mapData onTag onValue = .remaining) : p = .remaining := by
  cases p with
  | remaining => rfl
  | equals value => exact absurd hp (h.ne_remaining value)
  | _ => cases hp

theorem listMapData_eq_nil {ps : List Pattern} (h : listMapData onTag onValue ps = []) :
    ps = [] := by
  cases ps with
  | nil => rfl
  | cons p ps => cases h

mutual
/-- What is satisfied stays the same. -/
theorem satisfies_mapData (h : KeepsMeaning onTag onValue) (p : Pattern) :
    (p.mapData onTag onValue).satisfies = p.satisfies := by
  funext d
  cases p with
  | tagged tag =>
    show d.slots.head?.any _ = d.slots.head?.any _
    simp only [h.tag]
  | equals value => exact h.value value d
  | includes inner =>
    rw [mapData, satisfies, satisfies, satisfies_mapData h inner]
  | within inner =>
    rw [mapData, satisfies, satisfies, satisfies_mapData h inner]
  | sibling subject follower gap =>
    rw [mapData, satisfies, satisfies, satisfies_mapData h subject, satisfies_mapData h follower]
  | not inner =>
    rw [mapData, satisfies, satisfies, satisfies_mapData h inner]
  | any options => exact anySatisfied_mapData h options d
  | all required => exact allSatisfied_mapData h required d
  | shape elements =>
    rw [mapData, satisfies, satisfies, fits_mapData h elements]
  | _ => rfl
termination_by structural p

theorem anySatisfied_mapData (h : KeepsMeaning onTag onValue) (ps : List Pattern) (d : Datum) :
    anySatisfied (listMapData onTag onValue ps) d = anySatisfied ps d := by
  cases ps with
  | nil => rfl
  | cons p ps =>
    rw [listMapData, anySatisfied, anySatisfied, satisfies_mapData h p, anySatisfied_mapData h ps]
termination_by structural ps

theorem allSatisfied_mapData (h : KeepsMeaning onTag onValue) (ps : List Pattern) (d : Datum) :
    allSatisfied (listMapData onTag onValue ps) d = allSatisfied ps d := by
  cases ps with
  | nil => rfl
  | cons p ps =>
    rw [listMapData, allSatisfied, allSatisfied, satisfies_mapData h p, allSatisfied_mapData h ps]
termination_by structural ps

theorem fits_mapData (h : KeepsMeaning onTag onValue) (ps : List Pattern) (ds : List Datum) :
    fits (listMapData onTag onValue ps) ds = fits ps ds := by
  cases ps with
  | nil => rfl
  | cons p ps =>
    -- only a last `remaining` is special, and it is last after the change as before
    by_cases hlast : p = .remaining ∧ ps = []
    · obtain ⟨rfl, rfl⟩ := hlast
      rfl
    · have hbefore : p = .remaining → ps ≠ [] := fun hp hps => hlast ⟨hp, hps⟩
      have hafter : p.mapData onTag onValue = .remaining → listMapData onTag onValue ps ≠ [] :=
        fun hp hps => hlast ⟨h.mapData_eq_remaining hp, listMapData_eq_nil hps⟩
      rw [listMapData]
      cases ds with
      | nil => rw [fits_cons_nil hafter, fits_cons_nil hbefore]
      | cons d ds =>
        rw [fits_cons_cons hafter, fits_cons_cons hbefore, satisfies_mapData h p,
          fits_mapData h ps]
termination_by structural ps
end

mutual
/-- The text stays the same. -/
theorem sourceChars_mapData (h : KeepsText onTag onValue) (p : Pattern) :
    (p.mapData onTag onValue).sourceChars = p.sourceChars := by
  cases p with
  | tagged tag => rw [mapData, sourceChars, sourceChars, h.tag]
  | equals value => exact h.value value
  | includes inner => rw [mapData, sourceChars, sourceChars, sourceChars_mapData h inner]
  | within inner => rw [mapData, sourceChars, sourceChars, sourceChars_mapData h inner]
  | sibling subject follower gap =>
    rw [mapData, sourceChars, sourceChars, sourceChars_mapData h subject,
      sourceChars_mapData h follower]
  | not inner => rw [mapData, sourceChars, sourceChars, sourceChars_mapData h inner]
  | any options => rw [mapData, sourceChars, sourceChars, sourceArgs_mapData h options]
  | all required => rw [mapData, sourceChars, sourceChars, sourceArgs_mapData h required]
  | shape elements => rw [mapData, sourceChars, sourceChars, sourceElements_mapData h elements]
  | _ => rfl
termination_by structural p

theorem sourceArgs_mapData (h : KeepsText onTag onValue) (ps : List Pattern) :
    sourceArgs (listMapData onTag onValue ps) = sourceArgs ps := by
  cases ps with
  | nil => rfl
  | cons p ps =>
    rw [listMapData, sourceArgs, sourceArgs, sourceChars_mapData h p, sourceArgs_mapData h ps]
termination_by structural ps

theorem sourceElements_mapData (h : KeepsText onTag onValue) (ps : List Pattern) :
    sourceElements (listMapData onTag onValue ps) = sourceElements ps := by
  cases ps with
  | nil => rfl
  | cons p ps =>
    rw [listMapData, sourceElements, sourceElements, sourceChars_mapData h p,
      sourceMore_mapData h ps]
termination_by structural ps

theorem sourceMore_mapData (h : KeepsText onTag onValue) (ps : List Pattern) :
    sourceMore (listMapData onTag onValue ps) = sourceMore ps := by
  cases ps with
  | nil => rfl
  | cons p ps =>
    rw [listMapData, sourceMore, sourceMore, sourceChars_mapData h p, sourceMore_mapData h ps]
termination_by structural ps
end

end

/-! ## The two changes -/

theorem keepsMeaning_unlined :
    KeepsMeaning Datum.unlined fun value => .equals value.unlined where
  tag tag d := Datum.beq_unlined d tag
  value value d := Datum.beq_unlined d value
  ne_remaining _ h := nomatch h

theorem keepsText_unlined : KeepsText Datum.unlined fun value => .equals value.unlined where
  tag := Datum.literalChars_unlined
  value := Datum.literalChars_unlined

theorem keepsMeaning_structural : KeepsMeaning id Datum.structural where
  tag _ _ := rfl
  value := satisfies_structural
  ne_remaining := Datum.structural_ne_remaining

theorem keepsText_structural : KeepsText id Datum.structural where
  tag _ := rfl
  value := sourceChars_structural

/-- Patterns that differ in lines only are satisfied by the same data. -/
theorem satisfies_eq_of_unlined_eq {p q : Pattern} (h : p.unlined = q.unlined) :
    p.satisfies = q.satisfies := by
  rw [← satisfies_mapData keepsMeaning_unlined p, ← satisfies_mapData keepsMeaning_unlined q]
  exact congrArg satisfies h

/-- Patterns that differ in lines only are written alike. -/
theorem sourceChars_eq_of_unlined_eq {p q : Pattern} (h : p.unlined = q.unlined) :
    p.sourceChars = q.sourceChars := by
  rw [← sourceChars_mapData keepsText_unlined p, ← sourceChars_mapData keepsText_unlined q]
  exact congrArg sourceChars h

end Pattern
end SexprQuery
