import SexprQuery.Proofs.RegexNames

/-!
# Escaped slashes

An escaped slash stands for a slash, and so does a bare one; a source with its escaped
slashes bare (`Unescapes`) is read as the same regular expression. Each function of the
scanner is followed on both sides: what it reads from the first it reads from the second as
well, and what is left is related in the same way (`Follows`).

Only a Unicode class may be read differently, since its name is all text up to the closing
brace. No such class has a backslash in its name, so the first side is without meaning then.
-/

namespace SexprQuery.Regex

/-- A source and the same source with its escaped slashes bare. Backslashes go with the
character behind them. -/
inductive Unescapes : List Char → List Char → Prop where
  | nil : Unescapes [] []
  | slash {cs ds : List Char} (h : Unescapes cs ds) : Unescapes ('\\' :: '/' :: cs) ('/' :: ds)
  | escape {c : Char} (hc : c ≠ '/') {cs ds : List Char} (h : Unescapes cs ds) :
    Unescapes ('\\' :: c :: cs) ('\\' :: c :: ds)
  | plain {c : Char} (hc : c ≠ '\\') {cs ds : List Char} (h : Unescapes cs ds) :
    Unescapes (c :: cs) (c :: ds)

namespace Unescapes
variable {cs ds : List Char}

/-! ## Blanks -/

theorem skipBlanks (h : Unescapes cs ds) (inComment : Bool) :
    Unescapes (Regex.skipBlanks inComment cs) (Regex.skipBlanks inComment ds) := by
  induction h generalizing inComment with
  | nil => exact .nil
  | @slash cs ds h ih =>
    cases inComment with
    | false => exact .slash h
    | true => exact ih true
  | @escape c hc cs ds h ih =>
    cases inComment with
    | false => exact .escape hc h
    | true =>
      -- the character behind the backslash may end the comment
      exact ih (c != '\n')
  | @plain c hc cs ds h ih =>
    unfold Regex.skipBlanks
    split
    · exact ih _
    split
    · exact ih _
    split
    · exact ih _
    · exact .plain hc h

/-- A character other than a backslash or a slash is at the front of both or of neither. -/
theorem front (h : Unescapes cs ds) (c : Char) (hback : c ≠ '\\' := by decide)
    (hslash : c ≠ '/' := by decide) :
    (∃ us vs, cs = c :: us ∧ ds = c :: vs ∧ Unescapes us vs) ∨
      (∀ us, cs ≠ c :: us) ∧ ∀ vs, ds ≠ c :: vs := by
  cases h with
  | nil => exact .inr ⟨nofun, nofun⟩
  | slash _ =>
    exact .inr ⟨fun _ heq => hback (List.cons.inj heq).1.symm,
      fun _ heq => hslash (List.cons.inj heq).1.symm⟩
  | escape _ _ =>
    exact .inr ⟨fun _ heq => hback (List.cons.inj heq).1.symm,
      fun _ heq => hback (List.cons.inj heq).1.symm⟩
  | @plain d _ us vs h =>
    by_cases hd : d = c
    · exact .inl ⟨us, vs, by rw [hd], by rw [hd], h⟩
    · exact .inr ⟨fun _ heq => hd (List.cons.inj heq).1, fun _ heq => hd (List.cons.inj heq).1⟩

/-- A sign of other characters is at the front of both or of neither. -/
theorem behind? (h : Unescapes cs ds) (sign : List Char) (hback : '\\' ∉ sign := by decide)
    (hslash : '/' ∉ sign := by decide) :
    (Regex.behind? sign cs = none ∧ Regex.behind? sign ds = none) ∨
      ∃ us vs, Regex.behind? sign cs = some us ∧ Regex.behind? sign ds = some vs ∧
        Unescapes us vs ∧ vs.length ≤ ds.length := by
  induction sign generalizing cs ds with
  | nil => exact .inr ⟨cs, ds, rfl, rfl, h, Nat.le_refl _⟩
  | cons c sign ih =>
    rw [List.mem_cons, not_or] at hback hslash
    rcases h.front c (Ne.symm hback.1) (Ne.symm hslash.1) with
      ⟨us, vs, rfl, rfl, hrest⟩ | ⟨hcs, hds⟩
    · rw [Regex.behind?, Regex.behind?, if_pos rfl, if_pos rfl]
      refine (ih hrest hback.2 hslash.2).imp_right ?_
      rintro ⟨us', vs', hus', hvs', h', hlength⟩
      exact ⟨us', vs', hus', hvs', h', Nat.le_succ_of_le hlength⟩
    · have hnone {us : List Char} (hus : ∀ us', us ≠ c :: us') :
          Regex.behind? (c :: sign) us = none := by
        cases us with
        | nil => rfl
        | cons d us => exact if_neg fun heq => hus us (by rw [heq])
      exact .inl ⟨hnone hcs, hnone hds⟩

theorem skip (h : Unescapes cs ds) (x : Bool) : Unescapes (Regex.skip x cs) (Regex.skip x ds) := by
  unfold Regex.skip
  split
  · exact h.skipBlanks false
  · exact h

theorem dropWhile (h : Unescapes cs ds) (test : Char → Bool) (hback : test '\\' = false)
    (hslash : test '/' = false) : Unescapes (cs.dropWhile test) (ds.dropWhile test) := by
  have hstop {c : Char} (hc : test c = false) (us : List Char) :
      (c :: us).dropWhile test = c :: us :=
    List.dropWhile_cons_of_neg (by rw [hc]; exact Bool.false_ne_true)
  induction h with
  | nil => exact .nil
  | slash h =>
    rw [hstop hback, hstop hslash]
    exact .slash h
  | escape hc h =>
    rw [hstop hback, hstop hback]
    exact .escape hc h
  | @plain c hc cs ds h ih =>
    rw [List.dropWhile_cons, List.dropWhile_cons]
    split
    · exact ih
    · exact .plain hc h

end Unescapes

theorem takeSpaced_cons_of_pos {x : Bool} {test : Char → Bool} {c : Char} (hc : test c = true)
    (rest : List Char) : takeSpaced x test (c :: rest) =
      (c :: (takeSpaced x test (skip x rest)).1, (takeSpaced x test (skip x rest)).2) := by
  rw [takeSpaced, if_pos hc]

theorem takeSpaced_cons_of_neg {x : Bool} {test : Char → Bool} {c : Char} (hc : test c = false)
    (rest : List Char) : takeSpaced x test (c :: rest) = ([], c :: rest) := by
  rw [takeSpaced, if_neg (by rw [hc]; exact Bool.false_ne_true)]

theorem length_takeSpaced_le (x : Bool) (test : Char → Bool) (cs : List Char) :
    (takeSpaced x test cs).2.length ≤ cs.length := by
  fun_induction takeSpaced x test cs with
  | case1 => exact Nat.le_refl _
  | case2 c rest hc taken behind hrest ih =>
    have hskip := length_skip_le x rest
    rw [hrest] at ih
    exact Nat.le_succ_of_le (Nat.le_trans ih hskip)
  | case3 => exact Nat.le_refl _

theorem test_of_mem_takeSpaced {x : Bool} {test : Char → Bool} {cs : List Char} {c : Char}
    (h : c ∈ (takeSpaced x test cs).1) : test c = true := by
  fun_induction takeSpaced x test cs with
  | case1 => cases h
  | case2 d rest hd taken behind hrest ih =>
    rw [hrest] at ih
    rcases List.mem_cons.mp h with rfl | h
    · exact hd
    · exact ih h
  | case3 => cases h

/-- What is left starts with a character that does not pass. -/
theorem test_head_takeSpaced (x : Bool) (test : Char → Bool) (cs : List Char) :
    ∀ c ∈ (takeSpaced x test cs).2.head?, test c = false := by
  fun_induction takeSpaced x test cs with
  | case1 => nofun
  | case2 c rest hc taken behind hrest ih =>
    rw [hrest] at ih
    exact ih
  | case3 c rest hc =>
    rintro _ ⟨⟩
    exact Bool.not_eq_true _ ▸ hc

namespace Unescapes
variable {cs ds : List Char}

/-- Taking the characters that pass a test, which treats a backslash and a slash alike:
either a backslash is taken, or the same is taken on both sides. -/
theorem takeSpaced (x : Bool) (test : Char → Bool) (htest : test '\\' = test '/')
    (h : Unescapes cs ds) :
    ('\\' ∈ (Regex.takeSpaced x test cs).1 ∧
      ('\\' ∈ (Regex.takeSpaced x test ds).1 ∨ '/' ∈ (Regex.takeSpaced x test ds).1)) ∨
    (Regex.takeSpaced x test cs).1 = (Regex.takeSpaced x test ds).1 ∧
      Unescapes (Regex.takeSpaced x test cs).2 (Regex.takeSpaced x test ds).2 := by
  fun_induction Regex.takeSpaced x test cs generalizing ds with
  | case1 =>
    cases h
    rw [Regex.takeSpaced]
    exact .inr ⟨rfl, .nil⟩
  | case2 c rest hc taken behind hrest ih =>
    cases h with
    | slash h =>
      refine .inl ⟨List.mem_cons_self, .inr ?_⟩
      rw [takeSpaced_cons_of_pos (htest ▸ hc)]
      exact List.mem_cons_self
    | escape _ h =>
      refine .inl ⟨List.mem_cons_self, .inl ?_⟩
      rw [takeSpaced_cons_of_pos hc]
      exact List.mem_cons_self
    | plain _ h =>
      rw [takeSpaced_cons_of_pos hc]
      rw [hrest] at ih
      rcases ih (h.skip x) with ⟨hmem, hmem'⟩ | ⟨htaken, hbehind⟩
      · exact .inl ⟨List.mem_cons_of_mem c hmem,
          hmem'.imp (List.mem_cons_of_mem c) (List.mem_cons_of_mem c)⟩
      · exact .inr ⟨congrArg (List.cons c) htaken, hbehind⟩
  | case3 c rest hc =>
    rw [Bool.not_eq_true] at hc
    cases h with
    | slash h =>
      rw [takeSpaced_cons_of_neg (htest ▸ hc)]
      exact .inr ⟨rfl, .slash h⟩
    | escape hne h =>
      rw [takeSpaced_cons_of_neg hc]
      exact .inr ⟨rfl, .escape hne h⟩
    | plain hne h =>
      rw [takeSpaced_cons_of_neg hc]
      exact .inr ⟨rfl, .plain hne h⟩

/-- A test that a backslash fails takes none. -/
theorem takeSpaced_of_not (x : Bool) (test : Char → Bool) (hback : test '\\' = false)
    (hslash : test '/' = false) (h : Unescapes cs ds) :
    (Regex.takeSpaced x test cs).1 = (Regex.takeSpaced x test ds).1 ∧
      Unescapes (Regex.takeSpaced x test cs).2 (Regex.takeSpaced x test ds).2 := by
  rcases h.takeSpaced x test (hback.trans hslash.symm) with ⟨hmem, -⟩ | hsame
  · exact absurd (test_of_mem_takeSpaced hmem) (by rw [hback]; exact Bool.false_ne_true)
  · exact hsame

end Unescapes

theorem takeSpaced_false (test : Char → Bool) (cs : List Char) :
    takeSpaced false test cs = (cs.takeWhile test, cs.dropWhile test) := by
  fun_induction takeSpaced false test cs with
  | case1 => rfl
  | case2 c rest hc taken behind hrest ih =>
    rw [hrest, Prod.mk.injEq] at ih
    rw [List.takeWhile_cons_of_pos hc, List.dropWhile_cons_of_pos hc, ih.1, ih.2]
    rfl
  | case3 c rest hc => rw [List.takeWhile_cons_of_neg hc, List.dropWhile_cons_of_neg hc]

/-! ## Reading on both sides -/

/-- What is read on the first side is without meaning, or it is read on the second side as
well, where fewer than `k` characters are left then. -/
def Follows {α : Type} (dead : α → Prop) (k : Nat) (r r' : Option (α × List Char)) : Prop :=
  ∀ a behind, r = some (a, behind) → dead a ∨
    ∃ behind', r' = some (a, behind') ∧ Unescapes behind behind' ∧ behind'.length < k

/-- Nothing is without meaning. -/
def Never {α : Type} (_ : α) : Prop := False

namespace Follows
variable {α β : Type} {dead : α → Prop} {dead' : β → Prop} {k k' : Nat}
  {r r' : Option (α × List Char)}

theorem none : Follows dead k none r' := nofun

theorem some {a : α} {behind behind' : List Char} (h : Unescapes behind behind')
    (hk : behind'.length < k) : Follows dead k (some (a, behind)) (some (a, behind')) := by
  rintro _ _ ⟨⟩
  exact .inr ⟨behind', rfl, h, hk⟩

theorem of_dead {a : α} (ha : dead a) {behind : List Char} :
    Follows dead k (Option.some (a, behind)) r' := by
  rintro _ _ ⟨⟩
  exact .inl ha

theorem mono (h : Follows dead k r r') (hk : k ≤ k') : Follows dead k' r r' := by
  intro a behind hr
  refine (h a behind hr).imp_right ?_
  rintro ⟨behind', hr', hbehind, hlength⟩
  exact ⟨behind', hr', hbehind, Nat.lt_of_lt_of_le hlength hk⟩

/-- What always has a meaning. -/
theorem weaken (h : Follows Never k r r') : Follows dead k r r' := fun a behind hr =>
  .inr ((h a behind hr).resolve_left id)

theorem bind (h : Follows dead k r r') {f f' : α × List Char → Option (β × List Char)}
    (hdead : ∀ a behind, dead a → ∀ b behind', f (a, behind) = Option.some (b, behind') → dead' b)
    (hf : ∀ a behind behind', Unescapes behind behind' → behind'.length < k →
      Follows dead' k' (f (a, behind)) (f' (a, behind'))) :
    Follows dead' k' (r >>= f) (r' >>= f') := by
  intro b behind hb
  obtain ⟨⟨a, between⟩, rfl, hfa⟩ := Option.bind_eq_some_iff.mp hb
  rcases h a between rfl with ha | ⟨between', rfl, hbetween, hlength⟩
  · exact .inl (hdead a between ha b behind hfa)
  · exact hf a between between' hbetween hlength b behind hfa

theorem map (h : Follows dead k r r') {f : α × List Char → β × List Char} (g : α → β)
    (hf : ∀ a behind, f (a, behind) = (g a, behind)) (hdead : ∀ a, dead a → dead' (g a)) :
    Follows dead' k (r.map f) (r'.map f) := by
  intro b behind hb
  obtain ⟨⟨a, between⟩, rfl, hfa⟩ := Option.map_eq_some_iff.mp hb
  rw [hf] at hfa
  cases hfa
  rcases h a behind rfl with ha | ⟨behind', rfl, hbehind, hlength⟩
  · exact .inl (hdead a ha)
  · exact .inr ⟨behind', congrArg Option.some (hf a behind'), hbehind, hlength⟩

theorem ite {p : Prop} [Decidable p] {s s' : Option (α × List Char)}
    (hpos : p → Follows dead k r r') (hneg : ¬ p → Follows dead k s s') :
    Follows dead k (if p then r else s) (if p then r' else s') := by
  split
  · next h => exact hpos h
  · next h => exact hneg h

end Follows

/-! ## Escapes -/

/-- A class that stands for no set under any flags. -/
def ClassAtom.IsDead (a : ClassAtom) : Prop := ∀ f, a.set? f = none

/-- An item that is such a class. -/
inductive Item.IsDead : Item → Prop where
  | named {a : ClassAtom} (h : a.IsDead) : Item.IsDead (.named a)

theorem isDead_unicode_of_backslash {name : List Char} (h : '\\' ∈ name) (negated : Bool) :
    (ClassAtom.unicode (unicodeQuery (String.ofList name)).1 negated).IsDead := by
  intro f
  have hname : '\\' ∈ (String.ofList name).toList := by rwa [String.toList_ofList]
  rw [ClassAtom.set?, set?_unicodeQuery_of_backslash hname]
  split <;> rfl

variable {cs ds : List Char}

theorem follows_hexDigits? (h : Unescapes cs ds) (x : Bool) (n : Nat) :
    Follows Never (ds.length + 1) (hexDigits? x n cs) (hexDigits? x n ds) := by
  induction n generalizing cs ds with
  | zero => exact Follows.some h (Nat.lt_succ_self _)
  | succ n ih =>
    rw [hexDigits?, hexDigits?]
    have hskip := h.skip x
    have hlength := length_skip_le x ds
    generalize skip x cs = us at hskip
    generalize skip x ds = vs at hskip hlength
    cases hskip with
    | nil => exact .none
    | slash _ => exact .none
    | escape _ _ => exact .none
    | @plain c _ us vs h =>
      refine .ite (fun _ => ?_) fun _ => .none
      exact ((ih h).mono (Nat.le_succ_of_le hlength)).map (List.cons c) (fun _ _ => rfl)
        fun _ hdead => hdead

theorem follows_bracedHex? (h : Unescapes cs ds) (x : Bool) :
    Follows Never (ds.length + 1) (bracedHex? x cs) (bracedHex? x ds) := by
  have hlength := length_takeSpaced_le x Hexadecimal.isDigit (skip x ds)
  have hskip := length_skip_le x ds
  obtain ⟨htaken, hbehind⟩ :=
    (h.skip x).takeSpaced_of_not x Hexadecimal.isDigit (by decide) (by decide)
  unfold bracedHex?
  dsimp only
  rw [htaken]
  generalize (takeSpaced x Hexadecimal.isDigit (skip x cs)).2 = us at hbehind
  generalize (takeSpaced x Hexadecimal.isDigit (skip x ds)).2 = vs at hbehind hlength
  rcases hbehind.front '\x7d' with ⟨us, vs, rfl, rfl, hrest⟩ | ⟨hus, -⟩
  · refine .ite (fun _ => .none) fun _ => ?_
    cases Hexadecimal.character? (takeSpaced x Hexadecimal.isDigit (skip x ds)).1 with
    | none => exact .none
    | some d => exact .some hrest (by simp at hlength; omega)
  · split
    · exact absurd rfl (hus _)
    · exact .none

theorem follows_fixedHex? (h : Unescapes cs ds) (x : Bool) (letter : Char) :
    Follows Never (ds.length + 1) (fixedHex? x letter cs) (fixedHex? x letter ds) := by
  refine (follows_hexDigits? h x _).bind nofun ?_
  intro digits behind behind' hbehind hlt
  dsimp only
  cases Hexadecimal.character? digits with
  | none => exact .none
  | some c => exact .some hbehind hlt

theorem follows_hexEscape? (h : Unescapes cs ds) (x : Bool) (letter : Char) :
    Follows Never (ds.length + 1) (hexEscape? x letter cs) (hexEscape? x letter ds) := by
  have hskip := h.skip x
  have hlength := length_skip_le x ds
  unfold hexEscape?
  generalize skip x cs = us at hskip
  generalize skip x ds = vs at hskip hlength
  rcases hskip.front '\x7b' with ⟨us, vs, rfl, rfl, h⟩ | ⟨hus, hvs⟩
  · exact (follows_bracedHex? h x).mono (Nat.le_succ_of_le hlength)
  · split
    · exact absurd rfl (hus _)
    · exact (follows_fixedHex? hskip x letter).mono (Nat.succ_le_succ hlength)

theorem follows_bracedQuery? (h : Unescapes cs ds) (x negated : Bool) :
    Follows Item.IsDead (ds.length + 1) (bracedQuery? x negated cs)
      (bracedQuery? x negated ds) := by
  have hlength := length_takeSpaced_le x (· != '\x7d') (skip x ds)
  have hskip := length_skip_le x ds
  have htaken := (h.skip x).takeSpaced x (· != '\x7d') (by decide)
  unfold bracedQuery?
  dsimp only
  rcases htaken with ⟨hback, -⟩ | ⟨hname, hbehind⟩
  · -- a name with a backslash in it names nothing
    generalize (takeSpaced x (· != '\x7d') (skip x cs)).2 = us
    cases us with
    | nil => exact .none
    | cons c us =>
      exact .of_dead (.named (isDead_unicode_of_backslash hback _))
  · have hhead := test_head_takeSpaced x (· != '\x7d') (skip x cs)
    rw [hname]
    generalize (takeSpaced x (· != '\x7d') (skip x cs)).2 = us at hbehind hhead
    generalize (takeSpaced x (· != '\x7d') (skip x ds)).2 = vs at hbehind hlength
    cases hbehind with
    | nil => exact .none
    | slash _ => cases hhead _ rfl
    | escape _ _ => cases hhead _ rfl
    | plain _ hbehind => exact .some hbehind (by simp at hlength; omega)

theorem follows_unicodeEscape? (h : Unescapes cs ds) (x negated : Bool) :
    Follows Item.IsDead (ds.length + 1) (unicodeEscape? x negated cs)
      (unicodeEscape? x negated ds) := by
  have hskip := h.skip x
  have hlength := length_skip_le x ds
  unfold unicodeEscape?
  generalize skip x cs = us at hskip
  generalize skip x ds = vs at hskip hlength
  cases hskip with
  | nil => exact .none
  | slash _ => exact .none
  | escape _ _ => exact .none
  | @plain c hback us vs h =>
    by_cases hc : c = '\x7b'
    · subst hc
      exact (follows_bracedQuery? h x negated).mono (Nat.le_succ_of_le hlength)
    · split
      · next heq => cases heq
      · next heq => exact absurd (List.cons.inj heq).1 hc
      · next heq => exact absurd (List.cons.inj heq).1 hback
      · next heq =>
        cases heq
        exact .some h (Nat.lt_succ_of_lt hlength)

theorem follows_bracedBoundary? (h : Unescapes cs ds) (x : Bool) :
    Follows Never (ds.length + 1) (bracedBoundary? x cs) (bracedBoundary? x ds) := by
  have hlength := length_takeSpaced_le x isBoundaryLetter ds
  obtain ⟨htaken, hbehind⟩ := h.takeSpaced_of_not x isBoundaryLetter (by decide) (by decide)
  unfold bracedBoundary?
  dsimp only
  rw [htaken]
  generalize (takeSpaced x isBoundaryLetter cs).2 = us at hbehind
  generalize (takeSpaced x isBoundaryLetter ds).2 = vs at hbehind hlength
  rcases hbehind.front '\x7d' with ⟨us, vs, rfl, rfl, hrest⟩ | ⟨hus, -⟩
  · show Follows Never _ ((boundaryNamed? _).map _) ((boundaryNamed? _).map _)
    cases boundaryNamed? (String.ofList (takeSpaced x isBoundaryLetter ds).1) with
    | none => exact .none
    | some a => exact .some hrest (Nat.lt_of_succ_le (Nat.le_succ_of_le hlength))
  · split
    · exact absurd rfl (hus _)
    · exact .none

theorem follows_boundaryEscape? (h : Unescapes cs ds) (x : Bool) :
    Follows Never (ds.length + 1) (boundaryEscape? x cs) (boundaryEscape? x ds) := by
  have hplain : Follows Never (ds.length + 1) (some (Item.anchor .wordBoundary, cs))
      (some (Item.anchor .wordBoundary, ds)) := .some h (Nat.lt_succ_self _)
  rcases h.front '\x7b' with ⟨us, vs, rfl, rfl, hinner⟩ | ⟨hcs, hds⟩
  · rw [boundaryEscape?, boundaryEscape?]
    have hskip := hinner.skip x
    have hlength := length_skip_le x vs
    generalize skip x us = us' at hskip
    generalize skip x vs = vs' at hskip hlength
    cases hskip with
    | nil => exact .none
    | slash _ => exact hplain
    | escape _ _ => exact hplain
    | plain hne h =>
      refine .ite (fun _ => ?_) fun _ => hplain
      exact (follows_bracedBoundary? (.plain hne h) x).mono
        (Nat.succ_le_succ (Nat.le_succ_of_le hlength))
  · unfold boundaryEscape?
    split
    · exact absurd rfl (hcs _)
    · exact hplain

/-- What stands behind a backslash, where it is the same character on both sides. -/
theorem follows_escape? (h : Unescapes cs ds) (x : Bool) (c : Char) :
    Follows Item.IsDead (ds.length + 1) (escape? x (c :: cs)) (escape? x (c :: ds)) := by
  have hsome (item : Item) : Follows Item.IsDead (ds.length + 1) (some (item, cs))
      (some (item, ds)) := .some h (Nat.lt_succ_self _)
  rw [escape?, escape?]
  refine .ite (fun _ => .none) fun _ => ?_
  refine .ite (fun _ => (follows_hexEscape? h x c).weaken) fun _ => ?_
  refine .ite (fun _ => follows_unicodeEscape? h x _) fun _ => ?_
  refine .ite (fun _ => (follows_boundaryEscape? h x).weaken) fun _ => ?_
  refine .ite (fun _ => hsome _) fun _ => ?_
  generalize classLetter? c = class_
  generalize controlLetter? c = control
  generalize anchorLetter? c = anchor
  cases class_ with
  | some a => exact hsome _
  | none =>
    cases control with
    | some d => exact hsome _
    | none =>
      cases anchor with
      | some a => exact hsome _
      | none => exact .none

end SexprQuery.Regex
