import SexprQuery.Proofs.RegexClasses
import SexprQuery.Regex.Compile

/-!
# Escaped slashes make no difference

A regular expression that compiles compiles to the same with its escaped slashes bare
(`compile?_of_unescapes`). The pieces of the two sources are the same, except for items
without meaning (`pieces?_of_unescapes`); and such an item leaves the tree it stands in
without meaning (`hasDead_foldlM`).
-/

namespace SexprQuery.Regex
variable {cs ds : List Char}

/-! ## Pieces without meaning -/

/-- An item without meaning. -/
inductive Piece.IsDead : Piece → Prop where
  | item {a : Ast} (h : a.IsDead) : Piece.IsDead (.item a)

theorem Item.IsDead.ast {item : Item} (h : item.IsDead) : item.ast.IsDead := by
  obtain ⟨h⟩ := h
  intro f
  show Option.map _ _ = none
  rw [h f]
  rfl

/-! ## Groups -/

theorem follows_flags? (h : Unescapes cs ds) (settings : List FlagSetting) (on afterDash : Bool) :
    Follows Never (ds.length + 1) (flags? settings on afterDash cs)
      (flags? settings on afterDash ds) := by
  induction h generalizing settings on afterDash with
  | nil => exact .none
  | slash _ => exact .none
  | escape _ _ => exact .none
  | @plain c _ us vs h ih =>
    have hlt : vs.length < (c :: vs).length + 1 := Nat.lt_succ_of_lt (Nat.lt_succ_self _)
    have hstep (settings : List FlagSetting) (on afterDash : Bool) :
        Follows Never ((c :: vs).length + 1) (flags? settings on afterDash us)
          (flags? settings on afterDash vs) :=
      (ih settings on afterDash).mono (Nat.le_succ _)
    rw [flags?, flags?]
    refine .ite (fun _ => ?_) fun _ => .ite (fun _ => ?_) fun _ => .ite (fun _ => ?_) fun _ => ?_
    · exact .ite (fun _ => .none) fun _ => .some h hlt
    · exact .ite (fun _ => .none) fun _ => .some h hlt
    · exact .ite (fun _ => hstep _ _ _) fun _ => .none
    · cases flagLetter? c with
      | none => exact .none
      | some flag => exact .ite (fun _ => .none) fun _ => hstep _ _ _

/-- A backslash is no part of a group's name. -/
theorem isNameChar_backslash (first : Bool) : isNameChar first '\\' = false := by
  cases first <;> rfl

theorem follows_namedGroup? (h : Unescapes cs ds) :
    Follows Never (ds.length + 1) (namedGroup? cs) (namedGroup? ds) := by
  have hlength := length_takeSpaced_le false (· != '>') ds
  have hhead := test_head_takeSpaced false (· != '>') cs
  have htaken := h.takeSpaced false (· != '>') (by decide)
  rw [takeSpaced_false] at htaken hlength hhead
  rw [takeSpaced_false] at htaken
  dsimp only at htaken hlength hhead
  unfold namedGroup?
  dsimp only
  rcases htaken with ⟨hmem, -⟩ | ⟨hname, hbehind⟩
  · generalize cs.takeWhile (· != '>') = name at hmem
    split
    · next c more =>
      refine fun _ _ heq => absurd heq ?_
      rw [if_neg]
      · exact nofun
      rw [Bool.and_eq_true, List.all_eq_true]
      rintro ⟨hfirst, hmore⟩
      rcases List.mem_cons.mp hmem with rfl | hmem
      · rw [isNameChar_backslash] at hfirst
        cases hfirst
      · have hback := hmore _ hmem
        rw [isNameChar_backslash] at hback
        cases hback
    · exact .none
  · rw [hname]
    generalize cs.dropWhile (· != '>') = us at hbehind hhead
    generalize ds.dropWhile (· != '>') = vs at hbehind hlength
    cases hbehind with
    | nil => exact .none
    | slash _ => cases hhead _ rfl
    | escape _ _ => cases hhead _ rfl
    | plain _ hrest =>
      cases ds.takeWhile (· != '>') with
      | nil => exact .none
      | cons c more =>
        exact .ite (fun _ => .some hrest (Nat.lt_succ_of_lt hlength)) fun _ => .none

theorem follows_specialGroup? (h : Unescapes cs ds) :
    Follows Never (ds.length + 1) (specialGroup? cs) (specialGroup? ds) := by
  have hname {us vs : List Char} (hrest : Unescapes us vs) (hle : vs.length ≤ ds.length) :
      Follows Never (ds.length + 1) (namedGroup? us) (namedGroup? vs) :=
    (follows_namedGroup? hrest).mono (Nat.succ_le_succ hle)
  unfold specialGroup?
  rcases h.behind? ['<'] with ⟨hcs, hds⟩ | ⟨us, vs, hcs, hds, hrest, hle⟩ <;> rw [hcs, hds]
  · rcases h.behind? ['P', '<'] with ⟨hcs, hds⟩ | ⟨us, vs, hcs, hds, hrest, hle⟩ <;>
      rw [hcs, hds]
    · exact follows_flags? h [] true false
    · exact hname hrest hle
  · exact hname hrest hle

theorem follows_group? (h : Unescapes cs ds) (x : Bool) :
    Follows Never (ds.length + 1) (group? x cs) (group? x ds) := by
  have hskip := h.skip x
  have hlength := length_skip_le x ds
  unfold group?
  generalize skip x cs = us at hskip
  generalize skip x ds = vs at hskip hlength
  rcases hskip.front '?' with ⟨us, vs, rfl, rfl, hrest⟩ | ⟨hus, hvs⟩
  · exact (follows_specialGroup? hrest).mono (Nat.le_succ_of_le hlength)
  · split
    · exact absurd rfl (hus _)
    · exact .some hskip (Nat.lt_succ_of_le hlength)

/-! ## Repetitions -/

theorem Unescapes.count? (h : Unescapes cs ds) (x : Bool) :
    (Regex.count? x cs).1 = (Regex.count? x ds).1 ∧
      Unescapes (Regex.count? x cs).2 (Regex.count? x ds).2 ∧
      (Regex.count? x ds).2.length ≤ ds.length := by
  have hblank := h.dropWhile isBlank (by decide) (by decide)
  obtain ⟨hdigits, hbehind⟩ := hblank.takeSpaced_of_not x Decimal.isDigit (by decide) (by decide)
  unfold Regex.count?
  dsimp only
  rw [hdigits]
  refine ⟨rfl, hbehind.dropWhile isBlank (by decide) (by decide), ?_⟩
  have hbefore := (List.dropWhile_sublist isBlank (l := ds)).length_le
  have hlength := length_takeSpaced_le x Decimal.isDigit (ds.dropWhile isBlank)
  exact Nat.le_trans (List.dropWhile_sublist isBlank).length_le (Nat.le_trans hlength hbefore)

theorem follows_lazily (h : Unescapes cs ds) (least : Nat) (most : Option Nat) :
    Follows Never (ds.length + 1) (some (lazily least most cs)) (some (lazily least most ds)) := by
  rcases h.front '?' with ⟨us, vs, rfl, rfl, hrest⟩ | ⟨hcs, hds⟩
  · exact .some hrest (Nat.lt_succ_of_lt (Nat.lt_succ_self _))
  · unfold lazily
    split
    · exact absurd rfl (hcs _)
    · exact .some h (Nat.lt_succ_self _)

theorem follows_closeCount? (h : Unescapes cs ds) (x : Bool) (least : Nat) (most : Option Nat) :
    Follows Never (ds.length + 1) (closeCount? x least most cs) (closeCount? x least most ds) := by
  rcases h.front '\x7d' with ⟨us, vs, rfl, rfl, hrest⟩ | ⟨hcs, -⟩
  · have hle := length_skip_le x vs
    exact (follows_lazily (hrest.skip x) least most).mono (by simp only [List.length_cons]; omega)
  · unfold closeCount?
    split
    · exact absurd rfl (hcs _)
    · exact .none

theorem follows_boundedCount? (h : Unescapes cs ds) (x : Bool) (start : Option Nat) :
    Follows Never (ds.length + 1) (boundedCount? x start cs) (boundedCount? x start ds) := by
  have hskip := h.skip x
  have hlength := length_skip_le x ds
  unfold boundedCount?
  generalize skip x cs = us at hskip
  generalize skip x ds = vs at hskip hlength
  rcases hskip.front '\x7d' with ⟨us, vs, rfl, rfl, hrest⟩ | ⟨hus, hvs⟩
  · have hle := length_skip_le x vs
    cases start with
    | none => exact .none
    | some m =>
      exact (follows_lazily (hrest.skip x) m none).mono (by simp at hlength; omega)
  · split
    · exact absurd rfl (hus _)
    obtain ⟨hstop, hbehind, hle⟩ := hskip.count? x
    dsimp only
    rw [hstop]
    cases start with
    | none => exact .none
    | some m =>
      cases (count? x vs).1 with
      | none => exact .none
      | some n =>
        refine .ite (fun _ => ?_) fun _ => .none
        exact (follows_closeCount? hbehind x m (some n)).mono (by omega)

theorem follows_counted? (h : Unescapes cs ds) (x : Bool) :
    Follows Never (ds.length + 1) (counted? x cs) (counted? x ds) := by
  have hlength := length_skip_le x ds
  obtain ⟨hstart, hbehind, hle⟩ := (h.skip x).count? x
  unfold counted?
  dsimp only
  rw [hstart]
  generalize (count? x (skip x cs)).2 = us at hbehind
  generalize (count? x (skip x ds)).2 = vs at hbehind hle
  rcases hbehind.front ',' with ⟨us, vs, rfl, rfl, hrest⟩ | ⟨hus, hvs⟩
  · exact (follows_boundedCount? hrest x _).mono (by simp at hle; omega)
  · split
    · exact absurd rfl (hus _)
    cases (count? x (skip x ds)).1 with
    | none => exact .none
    | some n => exact (follows_closeCount? hbehind x n (some n)).mono (by omega)

/-! ## Pieces -/

theorem follows_piece? (h : Unescapes cs ds) (x : Bool) :
    Follows Piece.IsDead ds.length (piece? x cs) (piece? x ds) := by
  cases h with
  | nil => exact .none
  | slash h => exact .some h (Nat.lt_succ_self _)
  | @escape c _ us vs h =>
    exact ((follows_escape? h x c).map (fun item => Piece.item item.ast) (fun _ _ => rfl)
      fun _ h => .item h.ast).mono (Nat.le_succ _)
  | @plain c hc us vs h =>
    have hlazily (least : Nat) (most : Option Nat) :
        Follows Piece.IsDead (c :: vs).length (some (lazily least most us))
          (some (lazily least most vs)) := (follows_lazily h least most).weaken
    rw [piece?, piece?]
    refine .ite (fun _ => (follows_group? h x).weaken) fun _ => ?_
    refine .ite (fun _ => ?_) fun _ => ?_
    · exact (follows_class? h x).map Piece.item (fun _ _ => rfl) fun _ => .item
    refine .ite (fun heq => absurd heq hc) fun _ => ?_
    refine .ite (fun _ => hlazily 0 (some 1)) fun _ => ?_
    refine .ite (fun _ => hlazily 0 none) fun _ => ?_
    refine .ite (fun _ => hlazily 1 none) fun _ => ?_
    refine .ite (fun _ => (follows_counted? h x).weaken) fun _ => ?_
    exact .some h (Nat.lt_succ_self _)

/-- Fuel past the length of the text does not run out on the second side. -/
theorem piecesLoop?_of_unescapes {fuel fuel' : Nat} {x : Bool} {outer : List Bool}
    {names : List (List Char)} {ps : List Piece} (h : Unescapes cs ds) (hfuel : ds.length < fuel')
    (hps : piecesLoop? fuel x outer names cs = some ps) :
    (∃ p ∈ ps, p.IsDead) ∨ piecesLoop? fuel' x outer names ds = some ps := by
  induction fuel generalizing fuel' x outer names cs ds ps with
  | zero => cases hps
  | succ fuel ih =>
    obtain ⟨fuel', rfl⟩ := Nat.exists_eq_add_one_of_ne_zero (Nat.ne_zero_of_lt hfuel)
    have hskip := h.skip x
    have hlength := length_skip_le x ds
    rw [piecesLoop?] at hps ⊢
    generalize skip x cs = us at hskip hps
    generalize skip x ds = vs at hskip hlength
    cases us with
    | nil =>
      cases hskip
      exact .inr hps
    | cons c us =>
      obtain ⟨⟨piece, behind⟩, hpiece, hps⟩ := Option.bind_eq_some_iff.mp hps
      obtain ⟨names', hnames, hps⟩ := Option.bind_eq_some_iff.mp hps
      obtain ⟨⟨x', outer'⟩, hscope, hps⟩ := Option.bind_eq_some_iff.mp hps
      obtain ⟨rest, hrest, heq⟩ := Option.bind_eq_some_iff.mp hps
      cases heq
      rcases follows_piece? hskip x piece behind hpiece with
        hdead | ⟨behind', hpiece', hbehind, hlt⟩
      · exact .inl ⟨piece, List.mem_cons_self, hdead⟩
      have hfuel' : behind'.length < fuel' := by omega
      rcases ih hbehind hfuel' hrest with ⟨p, hmem, hdead⟩ | hrest'
      · exact .inl ⟨p, List.mem_cons_of_mem piece hmem, hdead⟩
      · refine .inr ?_
        cases vs with
        | nil => cases hskip
        | cons d vs =>
          dsimp only
          rw [hpiece']
          simp only [Option.bind_eq_bind, Option.bind_some, Option.pure_def, hnames, hscope, hrest']

theorem pieces?_of_unescapes (h : Unescapes cs ds) {ps : List Piece} (hps : pieces? cs = some ps) :
    (∃ p ∈ ps, p.IsDead) ∨ pieces? ds = some ps :=
  piecesLoop?_of_unescapes h (Nat.lt_succ_self _) hps

/-! ## Trees -/

theorem meanings?_eq_none {parts : List Ast} {a : Ast} (ha : a.IsDead) (hmem : a ∈ parts)
    (f : Flags) : meanings? f parts = none := by
  induction parts generalizing f with
  | nil => cases hmem
  | cons b parts ih =>
    show ((b.meaning? f).bind fun r => (meanings? r.2 parts).bind _) = none
    rcases List.mem_cons.mp hmem with rfl | hmem
    · rw [ha f]
      rfl
    · cases b.meaning? f with
      | none => rfl
      | some r =>
        show (meanings? r.2 parts).bind _ = none
        rw [ih hmem]
        rfl

theorem Ast.isDead_concat {parts : List Ast} {a : Ast} (ha : a.IsDead) (hmem : a ∈ parts) :
    (concat parts).IsDead := fun f => by
  show (meanings? f parts).bind _ = none
  rw [meanings?_eq_none ha hmem]
  rfl

theorem Ast.isDead_alternation {branches : List Ast} {a : Ast} (ha : a.IsDead)
    (hmem : a ∈ branches) : (alternation branches).IsDead := fun f => by
  show (meanings? f branches).bind _ = none
  rw [meanings?_eq_none ha hmem]
  rfl

theorem Ast.IsDead.repetition {a : Ast} (h : a.IsDead) (count : Count) :
    (Ast.repetition a count).IsDead := fun f => by
  show (a.meaning? f).bind _ = none
  rw [h f]
  rfl

theorem Ast.IsDead.group {a : Ast} (h : a.IsDead) (captures : Bool)
    (settings : List FlagSetting) : (Ast.group captures settings a).IsDead := fun f => by
  show (a.meaning? (settings.foldl Flags.apply f)).bind _ = none
  rw [h]
  rfl

theorem Ast.isDead_ofParts {parts : List Ast} {a : Ast} (ha : a.IsDead) (hmem : a ∈ parts) :
    (ofParts parts).IsDead := by
  unfold ofParts
  split
  · cases hmem
  · exact List.mem_singleton.mp hmem ▸ ha
  · exact isDead_concat ha hmem

namespace OpenGroup

/-- Something in the group is without meaning. -/
inductive IsDead (g : OpenGroup) : Prop where
  | branch {a : Ast} (hmem : a ∈ g.branches) (ha : a.IsDead)
  | part {a : Ast} (hmem : a ∈ g.parts) (ha : a.IsDead)

variable {g : OpenGroup}

theorem IsDead.push (h : g.IsDead) (a : Ast) : (g.push a).IsDead := by
  cases h with
  | branch hmem hb => exact .branch hmem hb
  | part hmem hb => exact .part (List.mem_cons_of_mem a hmem) hb

theorem isDead_push {a : Ast} (h : a.IsDead) (g : OpenGroup) : (g.push a).IsDead :=
  .part List.mem_cons_self h

theorem exists_branch_of_isDead (h : g.IsDead) : ∃ a ∈ g.endBranch.branches, a.IsDead := by
  cases h with
  | branch hmem ha => exact ⟨_, List.mem_cons_of_mem _ hmem, ha⟩
  | part hmem ha =>
    exact ⟨_, List.mem_cons_self, Ast.isDead_ofParts ha (List.mem_reverse.mpr hmem)⟩

theorem IsDead.endBranch (h : g.IsDead) : g.endBranch.IsDead := by
  obtain ⟨a, hmem, ha⟩ := exists_branch_of_isDead h
  exact .branch hmem ha

theorem IsDead.body (h : g.IsDead) : g.body.IsDead := by
  unfold OpenGroup.body
  split
  · next hbranches =>
    cases h with
    | branch hmem ha =>
      rw [hbranches] at hmem
      cases hmem
    | part hmem ha => exact Ast.isDead_ofParts ha (List.mem_reverse.mpr hmem)
  · obtain ⟨a, hmem, ha⟩ := exists_branch_of_isDead h
    exact Ast.isDead_alternation ha (List.mem_reverse.mpr hmem)

theorem IsDead.repeatLast? (h : g.IsDead) {count : Count} {g' : OpenGroup}
    (hg : g.repeatLast? count = some g') : g'.IsDead := by
  unfold OpenGroup.repeatLast? at hg
  split at hg
  · cases hg
  · cases hg
  · cases hg
  next a rest _ _ hparts =>
  cases hg
  cases h with
  | branch hmem hb => exact .branch hmem hb
  | part hmem hb =>
    rw [hparts] at hmem
    rcases List.mem_cons.mp hmem with rfl | hmem
    · exact .part List.mem_cons_self (hb.repetition count)
    · exact .part (List.mem_cons_of_mem _ hmem) hb

end OpenGroup

/-- Some open group has something without meaning in it. -/
inductive HasDead : OpenGroup × List OpenGroup → Prop where
  | top {g : OpenGroup} (hg : g.IsDead) (outer : List OpenGroup) : HasDead (g, outer)
  | outer (top : OpenGroup) {g : OpenGroup} {outer : List OpenGroup} (hmem : g ∈ outer)
    (hg : g.IsDead) : HasDead (top, outer)

/-- A piece leaves what is without meaning where it is. -/
theorem HasDead.addPiece {groups groups' : OpenGroup × List OpenGroup} (h : HasDead groups)
    {p : Piece} (hp : addPiece groups p = some groups') : HasDead groups' := by
  cases h with
  | @top g hg outer =>
    cases p with
    | item a =>
      cases hp
      exact .top (hg.push a) outer
    | opening captures name settings =>
      cases hp
      exact .outer _ List.mem_cons_self hg
    | closing =>
      cases outer with
      | nil => cases hp
      | cons parent outer =>
        cases hp
        exact .top (OpenGroup.isDead_push (hg.body.group _ _) parent) outer
    | bar =>
      cases hp
      exact .top hg.endBranch outer
    | repetition count =>
      obtain ⟨g', hg', heq⟩ := Option.map_eq_some_iff.mp hp
      cases heq
      exact .top (hg.repeatLast? hg') outer
  | @outer top g outer hmem hg =>
    cases p with
    | item a =>
      cases hp
      exact .outer _ hmem hg
    | opening captures name settings =>
      cases hp
      exact .outer _ (List.mem_cons_of_mem top hmem) hg
    | closing =>
      cases hmem with
      | head =>
        cases hp
        exact .top (hg.push _) _
      | tail parent hmem =>
        cases hp
        exact .outer _ hmem hg
    | bar =>
      cases hp
      exact .outer _ hmem hg
    | repetition count =>
      obtain ⟨g', -, heq⟩ := Option.map_eq_some_iff.mp hp
      cases heq
      exact .outer g' hmem hg

theorem hasDead_addPiece {groups groups' : OpenGroup × List OpenGroup} {p : Piece}
    (h : p.IsDead) (hp : addPiece groups p = some groups') : HasDead groups' := by
  obtain ⟨ha⟩ := h
  cases hp
  exact .top (OpenGroup.isDead_push ha _) _

theorem HasDead.foldlM {groups groups' : OpenGroup × List OpenGroup} {ps : List Piece}
    (h : HasDead groups) (hps : ps.foldlM Regex.addPiece groups = some groups') :
    HasDead groups' := by
  induction ps generalizing groups with
  | nil =>
    cases hps
    exact h
  | cons p ps ih =>
    rw [List.foldlM_cons] at hps
    obtain ⟨between, hp, hps⟩ := Option.bind_eq_some_iff.mp hps
    exact ih (h.addPiece hp) hps

/-- A piece without meaning is still there at the end. -/
theorem hasDead_foldlM {groups groups' : OpenGroup × List OpenGroup} {ps : List Piece}
    {p : Piece} (hmem : p ∈ ps) (h : p.IsDead)
    (hps : ps.foldlM Regex.addPiece groups = some groups') : HasDead groups' := by
  induction ps generalizing groups with
  | nil => cases hmem
  | cons q ps ih =>
    rw [List.foldlM_cons] at hps
    obtain ⟨between, hq, hrest⟩ := Option.bind_eq_some_iff.mp hps
    rcases List.mem_cons.mp hmem with rfl | hmem
    · exact (hasDead_addPiece h hq).foldlM hrest
    · exact ih hmem hrest

theorem parse?_of_unescapes {s s' : String} (h : Unescapes s.toList s'.toList) {a : Ast}
    (ha : parse? s = some a) : a.IsDead ∨ parse? s' = some a := by
  unfold parse? at ha ⊢
  obtain ⟨ps, hps, ha⟩ := Option.bind_eq_some_iff.mp ha
  rcases pieces?_of_unescapes h hps with ⟨p, hmem, hdead⟩ | hps'
  · refine .inl ?_
    obtain ⟨⟨whole, outer⟩, hgroups, ha⟩ := Option.bind_eq_some_iff.mp ha
    dsimp only at ha
    split at ha
    · next hlimits =>
      cases ha
      rw [Bool.and_eq_true, List.isEmpty_iff] at hlimits
      cases hasDead_foldlM hmem hdead hgroups with
      | top hwhole => exact hwhole.body
      | outer _ hmem =>
        rw [hlimits.1] at hmem
        cases hmem
    · cases ha
  · rw [hps']
    exact .inr ha

/-- A regular expression compiles to the same with its escaped slashes bare. -/
theorem compile?_of_unescapes {s s' : String} (h : Unescapes s.toList s'.toList) {re : Regex}
    (hre : compile? s = some re) : compile? s' = some re := by
  unfold compile? ofSource? at hre ⊢
  obtain ⟨re', hre', hfits⟩ := Option.bind_eq_some_iff.mp hre
  obtain ⟨a, ha, hmeaning⟩ := Option.bind_eq_some_iff.mp hre'
  rcases parse?_of_unescapes h ha with hdead | ha'
  · rw [hdead] at hmeaning
    cases hmeaning
  · rw [ha] at hre
    rw [ha']
    exact hre

end SexprQuery.Regex
