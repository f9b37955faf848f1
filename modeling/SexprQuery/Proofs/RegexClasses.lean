import SexprQuery.Proofs.RegexSlashes

/-!
# Escaped slashes in bracketed classes

A bracketed class that has a meaning is read as the same class where its escaped slashes
are bare (`follows_class?`). What is read step by step is the same on both sides, except for
items that are without meaning; a class with such an item in it is without meaning itself,
however it goes on (`isDead_of_classLoop?`).
-/

namespace SexprQuery.Regex

/-! ## Classes without meaning -/

/-- An inside of a class that stands for no set under any flags. -/
def ClassExpr.IsDead (e : ClassExpr) : Prop := ∀ f, e.set? f = none

/-- A tree that has no meaning under any flags. -/
def Ast.IsDead (a : Ast) : Prop := ∀ f, a.meaning? f = none

theorem unionSet?_eq_none {items : List ClassExpr} {e : ClassExpr} (he : e.IsDead)
    (hmem : e ∈ items) (f : Flags) : unionSet? f items = none := by
  induction items with
  | nil => cases hmem
  | cons d items ih =>
    show ((d.set? f).bind fun s => (unionSet? f items).bind _) = none
    rcases List.mem_cons.mp hmem with rfl | hmem
    · rw [he f]
      rfl
    · rw [ih hmem]
      exact Option.bind_fun_none _

theorem ClassExpr.isDead_union {items : List ClassExpr} {e : ClassExpr} (he : e.IsDead)
    (hmem : e ∈ items) : (union items).IsDead := fun f => by
  show unionSet? f items = none
  exact unionSet?_eq_none he hmem f

theorem ClassExpr.IsDead.binary_left {e : ClassExpr} (h : e.IsDead) (op : ClassOp)
    (right : ClassExpr) : (binary op e right).IsDead := fun f => by
  show ((e.set? f).bind _) = none
  rw [h f]
  rfl

theorem ClassExpr.IsDead.binary_right {e : ClassExpr} (h : e.IsDead) (op : ClassOp)
    (left : ClassExpr) : (binary op left e).IsDead := fun f => by
  show ((left.set? f).bind fun s => (e.set? f).bind _) = none
  rw [h f]
  exact Option.bind_fun_none _

theorem ClassExpr.IsDead.bracketed {e : ClassExpr} (h : e.IsDead) (negated : Bool) :
    (ClassExpr.bracketed negated e).IsDead := fun f => by
  show ((e.set? f).bind _) = none
  rw [h f]
  rfl

theorem ClassExpr.IsDead.brackets {e : ClassExpr} (h : e.IsDead) (negated : Bool) :
    (Ast.brackets negated e).IsDead := fun f => by
  show ((e.set? f).bind _) = none
  rw [h f]
  rfl

theorem Item.IsDead.classExpr? {item : Item} (h : item.IsDead) {e : ClassExpr}
    (he : item.classExpr? = some e) : e.IsDead := by
  obtain ⟨h⟩ := h
  cases he
  exact h

namespace OpenClass

/-- Something in the class is without meaning. -/
inductive IsDead (o : OpenClass) : Prop where
  | left {op : ClassOp} {e : ClassExpr} (hleft : o.left = some (op, e)) (he : e.IsDead)
  | item {e : ClassExpr} (hmem : e ∈ o.items) (he : e.IsDead)

variable {o : OpenClass}

theorem IsDead.push (h : o.IsDead) (item : ClassExpr) : (o.push item).IsDead := by
  cases h with
  | left hleft he => exact .left hleft he
  | item hmem he => exact .item (List.mem_cons_of_mem item hmem) he

theorem isDead_push {item : ClassExpr} (h : item.IsDead) (o : OpenClass) :
    (o.push item).IsDead := .item List.mem_cons_self h

theorem IsDead.body (h : o.IsDead) : o.body.IsDead := by
  unfold OpenClass.body
  cases h with
  | left hleft he =>
    rw [hleft]
    exact he.binary_left _ _
  | item hmem he =>
    -- the items alone, whatever stands left of them
    have hright : (OpenClass.body ⟨o.negated, none, o.items⟩).IsDead := by
      unfold OpenClass.body
      dsimp only
      split
      · next item heq =>
        rw [heq, List.mem_singleton] at hmem
        exact hmem ▸ he
      · exact ClassExpr.isDead_union he (List.mem_reverse.mpr hmem)
    dsimp only
    cases o.left with
    | none => exact hright
    | some left => exact hright.binary_right left.1 left.2

theorem IsDead.operate (h : o.IsDead) (op : ClassOp) : (o.operate op).IsDead :=
  .left rfl h.body

end OpenClass

/-- A class with something without meaning in it, or around it, is without meaning. -/
theorem isDead_of_classLoop? {x : Bool} {fuel : Nat} {top : OpenClass} {outer : List OpenClass}
    {cs : List Char} (h : top.IsDead ∨ ∃ o ∈ outer, o.IsDead) {a : Ast} {behind : List Char}
    (ha : classLoop? x fuel top outer cs = some (a, behind)) : a.IsDead := by
  induction fuel generalizing top outer cs with
  | zero => cases ha
  | succ fuel ih =>
    rw [classLoop?] at ha
    split at ha
    · cases ha
    split at ha
    · split at ha
      · exact ih (h.imp_left fun h => h.push _) ha
      · obtain ⟨⟨inner, between⟩, -, ha⟩ := Option.bind_eq_some_iff.mp ha
        refine ih (.inr ?_) ha
        rcases h with h | ⟨o, hmem, ho⟩
        · exact ⟨top, List.mem_cons_self, h⟩
        · exact ⟨o, List.mem_cons_of_mem top hmem, ho⟩
    split at ha
    · cases outer with
      | nil =>
        cases ha
        exact (h.resolve_right nofun).body.brackets _
      | cons parent outer =>
        refine ih ?_ ha
        rcases h with h | ⟨o, hmem, ho⟩
        · exact .inl (OpenClass.isDead_push (h.body.bracketed _) parent)
        · rcases List.mem_cons.mp hmem with rfl | hmem
          · exact .inl (ho.push _)
          · exact .inr ⟨o, hmem, ho⟩
    split at ha
    · exact ih (h.imp_left fun h => h.operate _) ha
    · obtain ⟨⟨item, between⟩, -, ha⟩ := Option.bind_eq_some_iff.mp ha
      exact ih (h.imp_left fun h => h.push _) ha

/-! ## Items -/

variable {cs ds : List Char}

theorem follows_classItem? (h : Unescapes cs ds) (x : Bool) :
    Follows Item.IsDead ds.length (classItem? x cs) (classItem? x ds) := by
  cases h with
  | nil => exact .none
  | slash h => exact .some h (Nat.lt_succ_self _)
  | escape _ h => exact (follows_escape? h x _).mono (Nat.le_succ _)
  | @plain c hc us vs h =>
    unfold classItem?
    split
    · next heq => cases heq
    · next heq => exact absurd (List.cons.inj heq).1 hc
    · next heq =>
      cases heq
      exact .some h (Nat.lt_succ_self _)

/-- The same character, or a slash and its backslash. -/
inductive Alike : Option Char → Option Char → Prop where
  | same (c : Option Char) : Alike c c
  | slash : Alike (some '\\') (some '/')

theorem Unescapes.head? (h : Unescapes cs ds) : Alike cs.head? ds.head? := by
  cases h with
  | slash _ => exact .slash
  | _ => exact .same _

theorem Unescapes.peekBehind (h : Unescapes cs ds) (x : Bool) :
    Alike (Regex.peekBehind x cs) (Regex.peekBehind x ds) := by
  have hfind {us vs : List Char} (hrest : Unescapes us vs) (inComment : Bool) :
      Alike (peekBehind.find cs inComment us) (peekBehind.find ds inComment vs) := by
    induction hrest generalizing inComment with
    | nil => exact h.head?
    | slash _ => cases inComment <;> exact .slash
    | escape _ _ => cases inComment <;> exact .same _
    | plain _ _ ih =>
      rw [peekBehind.find, peekBehind.find]
      split
      · exact ih _
      split
      · exact ih _
      · exact .same _
  unfold Regex.peekBehind
  split
  · exact hfind h false
  · exact h.head?

/-- A sign that is neither of the two is found on both sides or on neither. -/
theorem Alike.eq_some_iff {c d : Option Char} (h : Alike c d) {e : Char}
    (hback : e ≠ '\\' := by decide) (hslash : e ≠ '/' := by decide) :
    c = some e ↔ d = some e := by
  cases h with
  | same => exact Iff.rfl
  | slash =>
    exact ⟨fun h => absurd (Option.some.inj h).symm hback,
      fun h => absurd (Option.some.inj h).symm hslash⟩

theorem follows_rangeFrom? (h : Unescapes cs ds) (x : Bool) (first : Item) :
    Follows ClassExpr.IsDead (ds.length + 1) (rangeFrom? x first cs) (rangeFrom? x first ds) := by
  refine (follows_classItem? (h.skip x) x).bind ?_ ?_
  · -- only literals make a range
    intro second behind hdead e behind' he
    cases hdead
    cases first <;> cases he
  · intro second behind behind' hbehind hlt
    have hlength := length_skip_le x ds
    cases first <;> cases second <;> try exact .none
    exact .ite (fun _ => .some hbehind (by omega)) fun _ => .none

theorem follows_classExpr? (item : Item) (h : Unescapes cs ds) {k : Nat} (hk : ds.length < k) :
    Follows ClassExpr.IsDead k (item.classExpr?.map (·, cs)) (item.classExpr?.map (·, ds)) := by
  cases item.classExpr? with
  | none => exact .none
  | some e => exact .some h hk

theorem isDead_of_rangeFrom? {x : Bool} {first : Item} (h : first.IsDead) {e : ClassExpr}
    {behind : List Char} (he : rangeFrom? x first cs = some (e, behind)) : e.IsDead := by
  obtain ⟨⟨second, between⟩, -, he⟩ := Option.bind_eq_some_iff.mp he
  cases h
  cases second <;> cases he

theorem isDead_of_classExpr? {item : Item} (h : item.IsDead) {e : ClassExpr}
    {behind : List Char} (he : item.classExpr?.map (·, cs) = some (e, behind)) : e.IsDead := by
  obtain ⟨e', he', heq⟩ := Option.map_eq_some_iff.mp he
  cases heq
  exact h.classExpr? he'

theorem follows_classRange? (h : Unescapes cs ds) (x : Bool) :
    Follows ClassExpr.IsDead ds.length (classRange? x cs) (classRange? x ds) := by
  refine (follows_classItem? h x).bind ?_ ?_
  · intro first behind hdead e behind' he
    dsimp only at he
    split at he
    · cases he
    split at he
    · exact isDead_of_classExpr? hdead he
    · exact isDead_of_rangeFrom? hdead he
  · intro first behind behind' hbehind hlt
    have hskip := hbehind.skip x
    have hlength := Nat.lt_of_le_of_lt (length_skip_le x behind') hlt
    dsimp only
    generalize skip x behind = us at hskip
    generalize skip x behind' = vs at hskip hlength
    have hitem := follows_classExpr? first hskip hlength
    cases hskip with
    | nil => exact .none
    | slash _ =>
      dsimp only
      rw [if_pos (Or.inl (by decide)), if_pos (Or.inl (by decide))]
      exact hitem
    | escape _ _ =>
      dsimp only
      rw [if_pos (Or.inl (by decide)), if_pos (Or.inl (by decide))]
      exact hitem
    | plain _ hrest =>
      dsimp only
      have hbracket : peekBehind x _ = some ']' ↔ _ := (hrest.peekBehind x).eq_some_iff
      have hdash : peekBehind x _ = some '-' ↔ _ := (hrest.peekBehind x).eq_some_iff
      simp only [hbracket, hdash]
      exact .ite (fun _ => hitem) fun _ =>
        (follows_rangeFrom? hrest x first).mono (Nat.le_of_lt hlength)

/-! ## Named classes and operators -/

/-- Both sides read the same, and fewer than `k` characters are left on the second, or
neither reads anything. -/
def Agrees {α : Type} (k : Nat) (r r' : Option (α × List Char)) : Prop :=
  r = none ∧ r' = none ∨ ∃ a behind behind', r = some (a, behind) ∧ r' = some (a, behind') ∧
    Unescapes behind behind' ∧ behind'.length < k

theorem Agrees.some {α : Type} {k : Nat} {a : α} {behind behind' : List Char}
    (h : Unescapes behind behind') (hk : behind'.length < k) :
    Agrees k (some (a, behind)) (Option.some (a, behind')) :=
  .inr ⟨a, behind, behind', rfl, rfl, h, hk⟩

theorem Agrees.mono {α : Type} {k k' : Nat} {r r' : Option (α × List Char)}
    (h : Agrees k r r') (hk : k ≤ k') : Agrees k' r r' := by
  refine h.imp_right ?_
  rintro ⟨a, behind, behind', hr, hr', hbehind, hlength⟩
  exact ⟨a, behind, behind', hr, hr', hbehind, Nat.lt_of_lt_of_le hlength hk⟩

theorem asciiRanges?_eq_none {name : List Char} (h : '\\' ∈ name ∨ '/' ∈ name) :
    asciiRanges? (String.ofList name) = none := by
  generalize hs : String.ofList name = s
  have hname : name = s.toList := by rw [← hs, String.toList_ofList]
  rw [hname] at h
  unfold asciiRanges?
  split <;> first | rfl | exact absurd h (by decide)

theorem agrees_asciiNamed? (h : Unescapes cs ds) (negated : Bool) :
    Agrees (ds.length + 1) (asciiNamed? negated cs) (asciiNamed? negated ds) := by
  have hlength := length_takeSpaced_le false (· != ':') ds
  have htaken := h.takeSpaced false (· != ':') (by decide)
  rw [takeSpaced_false] at htaken hlength
  rw [takeSpaced_false] at htaken
  dsimp only at htaken hlength
  unfold asciiNamed?
  rcases htaken with ⟨hmem, hmem'⟩ | ⟨hname, hbehind⟩
  · rw [asciiRanges?_eq_none (.inl hmem), asciiRanges?_eq_none hmem']
    exact .inl ⟨Option.bind_fun_none _, Option.bind_fun_none _⟩
  · rw [hname]
    rcases hbehind.behind? [':', ']'] with ⟨hcs, hds⟩ | ⟨us, vs, hcs, hds, h, hle⟩ <;>
      rw [hcs, hds]
    · exact .inl ⟨rfl, rfl⟩
    · cases asciiRanges? (String.ofList (ds.takeWhile (· != ':'))) with
      | none => exact .inl ⟨rfl, rfl⟩
      | some ranges => exact .some h (Nat.lt_succ_of_le (Nat.le_trans hle hlength))

theorem agrees_asciiClass? (h : Unescapes cs ds) :
    Agrees (ds.length + 1) (asciiClass? cs) (asciiClass? ds) := by
  unfold asciiClass?
  rcases h.behind? [':'] with ⟨hcs, hds⟩ | ⟨us, vs, hcs, hds, h, hle⟩ <;> rw [hcs, hds]
  · exact .inl ⟨rfl, rfl⟩
  simp only [Option.bind_eq_bind, Option.bind_some]
  rcases h.behind? ['^'] with ⟨hus, hvs⟩ | ⟨us', vs', hus, hvs, h', hle'⟩ <;> rw [hus, hvs]
  · exact (agrees_asciiNamed? h false).mono (Nat.succ_le_succ hle)
  · exact (agrees_asciiNamed? h' true).mono (Nat.succ_le_succ (Nat.le_trans hle' hle))

theorem agrees_operator? (h : Unescapes cs ds) :
    Agrees ds.length (operator? cs) (operator? ds) := by
  cases h with
  | nil => exact .inl ⟨rfl, rfl⟩
  | @slash us vs h =>
    refine .inl ⟨rfl, ?_⟩
    cases vs with
    | nil => rfl
    | cons d vs => exact ite_self _
  | @escape c hc us vs h => exact .inl ⟨ite_self _, ite_self _⟩
  | @plain c hc us vs h =>
    cases h with
    | nil => exact .inl ⟨rfl, rfl⟩
    | @slash us vs h =>
      refine .inl ⟨if_neg hc, ?_⟩
      rw [operator?]
      split
      · next heq => subst heq; rfl
      · rfl
    | @escape d hd us vs h => exact .inl ⟨if_neg hc, if_neg hc⟩
    | @plain d hd us vs h =>
      rw [operator?, operator?]
      split
      · cases classOp? c with
        | none => exact .inl ⟨rfl, rfl⟩
        | some op => exact .some h (by simp only [List.length_cons]; omega)
      · exact .inl ⟨rfl, rfl⟩

/-! ## Whole classes -/

theorem follows_opened? (h : Unescapes cs ds) (negated : Bool) (items : List ClassExpr) :
    Follows Never (ds.length + 1) (opened? negated items cs) (opened? negated items ds) := by
  have hsome : Follows Never (ds.length + 1) (some (OpenClass.mk negated none items, cs))
      (some (OpenClass.mk negated none items, ds)) := .some h (Nat.lt_succ_self _)
  cases h with
  | nil => exact .none
  | _ => exact hsome

theorem follows_firstItems? (h : Unescapes cs ds) (x negated : Bool) :
    Follows Never (ds.length + 1) (firstItems? x negated cs) (firstItems? x negated ds) := by
  have hlength := length_takeSpaced_le x (· == '-') ds
  obtain ⟨htaken, hbehind⟩ := h.takeSpaced_of_not x (· == '-') (by decide) (by decide)
  unfold firstItems?
  dsimp only
  rw [htaken]
  generalize (takeSpaced x (· == '-') cs).2 = us at hbehind
  generalize (takeSpaced x (· == '-') ds).2 = vs at hbehind hlength
  have hopened (items : List ClassExpr) :=
    (follows_opened? hbehind negated items).mono (Nat.succ_le_succ hlength)
  cases (takeSpaced x (· == '-') ds).1 with
  | cons c dashes => exact hopened _
  | nil =>
    rcases hbehind.behind? [']'] with ⟨hus, hvs⟩ | ⟨us', vs', hus, hvs, hrest, hle⟩ <;>
      rw [hus, hvs]
    · exact hopened _
    · have hskip := length_skip_le x vs'
      exact (follows_opened? (hrest.skip x) negated _).mono (by omega)

theorem follows_openClass? (h : Unescapes cs ds) (x : Bool) :
    Follows Never (ds.length + 1) (openClass? x cs) (openClass? x ds) := by
  have hskip := h.skip x
  have hlength := length_skip_le x ds
  unfold openClass?
  generalize skip x cs = us at hskip
  generalize skip x ds = vs at hskip hlength
  rcases hskip.front '^' with ⟨us, vs, rfl, rfl, hrest⟩ | ⟨hus, hvs⟩
  · have hle := length_skip_le x vs
    exact (follows_firstItems? (hrest.skip x) x true).mono (by simp at hlength; omega)
  · split
    · exact absurd rfl (hus _)
    · exact (follows_firstItems? hskip x false).mono (Nat.succ_le_succ hlength)

/-- Where no bracket stands, an operator is read, or else an item, and `f` goes on. -/
theorem follows_operatorOrItem? (h : Unescapes cs ds) (x : Bool) (top : OpenClass) {k : Nat}
    {f g : OpenClass → List Char → Option (Ast × List Char)}
    (hf : ∀ {us vs}, Unescapes us vs → vs.length < ds.length → ∀ top : OpenClass,
      Follows Ast.IsDead k (f top us) (g top vs))
    (hdead : ∀ (top : OpenClass) us, top.IsDead → ∀ a behind,
      f top us = some (a, behind) → a.IsDead) :
    Follows Ast.IsDead k
      (match operator? cs with
        | some (op, behind) => f (top.operate op) behind
        | none => do
          let (item, behind) ← classRange? x cs
          f (top.push item) behind)
      (match operator? ds with
        | some (op, behind) => g (top.operate op) behind
        | none => do
          let (item, behind) ← classRange? x ds
          g (top.push item) behind) := by
  rcases agrees_operator? h with ⟨hcs, hds⟩ | ⟨op, us, vs, hcs, hds, hrest, hlt⟩ <;>
    rw [hcs, hds]
  · refine (follows_classRange? h x).bind ?_ ?_
    · intro item behind hitem a behind' ha
      exact hdead _ behind (OpenClass.isDead_push hitem top) a behind' ha
    · intro item behind behind' hrest hlt
      exact hf hrest hlt _
  · exact hf hrest hlt _

/-- Fuel past the length of the text does not run out on the second side. -/
theorem follows_classLoop? (h : Unescapes cs ds) (x : Bool) {fuel fuel' : Nat}
    (hfuel : ds.length < fuel') (top : OpenClass) (outer : List OpenClass) :
    Follows Ast.IsDead (ds.length + 1) (classLoop? x fuel top outer cs)
      (classLoop? x fuel' top outer ds) := by
  induction fuel generalizing fuel' cs ds top outer with
  | zero => exact .none
  | succ fuel ih =>
    obtain ⟨fuel', rfl⟩ := Nat.exists_eq_add_one_of_ne_zero (Nat.ne_zero_of_lt hfuel)
    have hskip := h.skip x
    have hlength := length_skip_le x ds
    rw [classLoop?, classLoop?]
    generalize skip x cs = us at hskip
    generalize skip x ds = vs at hskip hlength
    -- one step leaves less of the text
    have hstep {us' vs' : List Char} (hrest : Unescapes us' vs') (hlt : vs'.length < vs.length)
        (top : OpenClass) (outer : List OpenClass) :
        Follows Ast.IsDead (ds.length + 1) (classLoop? x fuel top outer us')
          (classLoop? x fuel' top outer vs') :=
      (ih hrest (by omega) top outer).mono (by omega)
    have hitem := follows_operatorOrItem? hskip x top
      (fun hrest hlt top => hstep hrest hlt top outer)
      fun top us hdead a behind ha => isDead_of_classLoop? (.inl hdead) ha
    cases hskip with
    | nil => exact .none
    | slash _ => exact hitem
    | escape _ _ => exact hitem
    | @plain c _ us vs hrest =>
      refine .ite (fun _ => ?_) fun _ => .ite (fun _ => ?_) fun _ => hitem
      · rcases agrees_asciiClass? hrest with ⟨hus, hvs⟩ | ⟨e, us', vs', hus, hvs, hrest', hlt⟩ <;>
          rw [hus, hvs]
        · refine (follows_openClass? hrest x).bind nofun ?_
          intro inner behind behind' hbehind hlt
          exact hstep hbehind hlt inner _
        · exact hstep hrest' hlt _ outer
      · cases outer with
        | nil => exact .some hrest (Nat.lt_succ_of_lt hlength)
        | cons parent outer => exact hstep hrest (Nat.lt_succ_self _) _ outer

theorem follows_class? (h : Unescapes cs ds) (x : Bool) :
    Follows Ast.IsDead (ds.length + 1) (class? x cs) (class? x ds) := by
  refine (follows_openClass? h x).bind nofun ?_
  intro top behind behind' hbehind hlt
  exact (follows_classLoop? hbehind x (Nat.lt_succ_self _) top []).mono hlt

end SexprQuery.Regex
