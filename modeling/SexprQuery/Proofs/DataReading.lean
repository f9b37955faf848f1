import SexprQuery.Proofs.DataDescent
import SexprQuery.Proofs.RuleRuns
import SexprQuery.Proofs.SharedText

/-!
# What data text spells

`Reads` says what a row of tokens spells, without a stack: the first token that has no
place is an error, else the last list that is opened and never closed is one, else there
are forms. Flattened, the forms are the tokens again, word by word what the words spell
(`Datum.pieces`, `Token.piece?`).

The reader does just that (`readTokens_eq_iff_reads`). Two facts carry it:

* what a reader holds, flattened, is what it has taken, and its stack is as deep as
  parentheses are open (`Reader.Holds`);
* the tokens of data make the reader put the data where they belong
  (`Reader.foldlM_pieces`), so data are balanced (`balanced_of_pieces`).
-/

namespace SexprQuery

/-! ## Flat data -/

/-- What data keep of a token: the ends of a list, with the line of the first one, and the
atoms. -/
inductive Piece where
  | opening (line : Option Nat)
  | closing
  | atom (value : Datum)

/-- What data keep of a token, where a word is the atom that it spells. They have no use for
the tokens of patterns. -/
def Token.piece? (t : Token) : Option Piece :=
  match t.lexeme with
  | .opening => some (.opening (some t.line))
  | .closing => some .closing
  | .word w => some (.atom (.ofWord w))
  | .str s => some (.atom (.str s))
  | .sym name => some (.atom (.sym name))
  | .openBracket | .closeBracket | .regex _ => none

namespace Datum

mutual
/-- A datum as a flat row. -/
def pieces : Datum → List Piece
  | .list line slots => .opening line :: (slotsPieces slots ++ [.closing])
  | d => [.atom d]
termination_by structural d => d

/-- The same for a row of slots. -/
def slotsPieces : List Datum → List Piece
  | [] => []
  | d :: ds => d.pieces ++ slotsPieces ds
termination_by structural ds => ds
end

theorem slotsPieces_append (ds es : List Datum) :
    slotsPieces (ds ++ es) = slotsPieces ds ++ slotsPieces es := by
  induction ds with
  | nil => rfl
  | cons d ds ih => rw [List.cons_append, slotsPieces, slotsPieces, ih, List.append_assoc]

theorem pieces_of_atom {d : Datum} (h : d.isList = false) : d.pieces = [.atom d] := by
  cases d with
  | list => cases h
  | _ => rfl

end Datum

open Datum (slotsPieces)

/-! ## What tokens spell -/

/-- The lists that are opened in a row of tokens. -/
def openings (ts : List Token) : Nat := ts.countP fun t => t.lexeme = .opening

/-- The lists that are closed in a row of tokens. -/
def closings (ts : List Token) : Nat := ts.countP fun t => t.lexeme = .closing

/-- Behind other tokens this one has no place in data text, and the error that it is: a
bracket, or a closing parenthesis where as many lists are closed as were opened. -/
inductive Misplaced (before : List Token) : Token → ReadError → Prop
  | openBracket (line : Nat) : Misplaced before ⟨.openBracket, line⟩ (.unsupportedToken "[" line)
  | closeBracket (line : Nat) : Misplaced before ⟨.closeBracket, line⟩ (.unsupportedToken "]" line)
  | closing (line : Nat) (h : openings before = closings before) :
    Misplaced before ⟨.closing, line⟩ (.unexpectedClose line)

/-- Every token of a row has its place. -/
def WellPlaced (ts : List Token) : Prop :=
  ∀ before t after e, ts = before ++ t :: after → ¬ Misplaced before t e

/-- A list that is opened in front of these tokens is never closed: up to each of them no more
lists are closed than opened. -/
def NeverClosed (after : List Token) : Prop := ∀ us, us <+: after → closings us ≤ openings us

/-- Every list that is opened in a row of tokens is closed. -/
def AllClosed (ts : List Token) : Prop :=
  ∀ before t after, ts = before ++ t :: after → t.lexeme = .opening → ¬ NeverClosed after

/-- What a row of tokens spells. The first token without a place is at fault, else the last
list that is never closed; else the tokens are those of the forms. -/
inductive Reads (ts : List Token) : Except ReadError (List Datum) → Prop
  | misplaced {before after : List Token} {t : Token} {e : ReadError}
    (split : ts = before ++ t :: after) (first : WellPlaced before) (fault : Misplaced before t e) :
    Reads ts (.error e)
  | unclosed {before after : List Token} {line : Nat} (placed : WellPlaced ts)
    (split : ts = before ++ ⟨.opening, line⟩ :: after) (never : NeverClosed after)
    (last : AllClosed after) : Reads ts (.error (.unclosed line))
  | forms {forms : List Datum} (placed : WellPlaced ts) (closed : AllClosed ts)
    (spelled : ts.map Token.piece? = (slotsPieces forms).map some) : Reads ts (.ok forms)

/-! ### Places in a row -/

/-- Two places in a row are one, or one of them is in front of the other. -/
theorem eq_or_exists_between {α : Type} {before before' after after' : List α} {a a' : α}
    (h : before ++ a :: after = before' ++ a' :: after') :
    (before = before' ∧ a = a' ∧ after = after') ∨
      (∃ mid, before' = before ++ a :: mid ∧ after = mid ++ a' :: after') ∨
      ∃ mid, before = before' ++ a' :: mid ∧ after' = mid ++ a :: after := by
  rcases List.append_eq_append_iff.mp h with ⟨mid, hbefore, hafter⟩ | ⟨mid, hbefore, hafter⟩
  · cases mid with
    | nil =>
      cases hafter
      exact .inl ⟨by simpa using hbefore.symm, rfl, rfl⟩
    | cons b mid =>
      cases hafter
      exact .inr (.inl ⟨mid, hbefore, rfl⟩)
  · cases mid with
    | nil =>
      cases hafter
      exact .inl ⟨by simpa using hbefore, rfl, rfl⟩
    | cons b mid =>
      cases hafter
      exact .inr (.inr ⟨mid, hbefore, rfl⟩)

theorem openings_append (ts us : List Token) : openings (ts ++ us) = openings ts + openings us :=
  List.countP_append

theorem closings_append (ts us : List Token) : closings (ts ++ us) = closings ts + closings us :=
  List.countP_append

theorem openings_cons (t : Token) (ts : List Token) :
    openings (t :: ts) = openings [t] + openings ts := openings_append [t] ts

theorem closings_cons (t : Token) (ts : List Token) :
    closings (t :: ts) = closings [t] + closings ts := closings_append [t] ts

theorem openings_opening (line : Nat) : openings [⟨.opening, line⟩] = 1 := rfl

theorem closings_opening (line : Nat) : closings [⟨.opening, line⟩] = 0 := rfl

theorem openings_closing (line : Nat) : openings [⟨.closing, line⟩] = 0 := rfl

theorem closings_closing (line : Nat) : closings [⟨.closing, line⟩] = 1 := rfl

theorem wellPlaced_nil : WellPlaced [] := by
  intro before t after e h
  cases before <;> cases h

theorem WellPlaced.append_singleton {ts : List Token} {t : Token} (h : WellPlaced ts)
    (ht : ∀ e, ¬ Misplaced ts t e) : WellPlaced (ts ++ [t]) := by
  intro before t' after e hsplit
  rcases eq_or_exists_between hsplit with ⟨rfl, rfl, -⟩ | ⟨mid, -, hafter⟩ | ⟨mid, rfl, -⟩
  · exact ht e
  · cases mid <;> cases hafter
  · exact h before t' mid e rfl

/-- There is one error at most that a token is. -/
theorem Misplaced.unique {before : List Token} {t : Token} {e e' : ReadError}
    (h : Misplaced before t e) (h' : Misplaced before t e') : e = e' := by
  cases h <;> cases h' <;> rfl

/-- Only one token is the first one without a place. -/
theorem Misplaced.eq_of_first {before before' after after' : List Token} {t t' : Token}
    {e e' : ReadError} (hsplit : before ++ t :: after = before' ++ t' :: after')
    (hfirst : WellPlaced before) (hfirst' : WellPlaced before') (h : Misplaced before t e)
    (h' : Misplaced before' t' e') : e = e' := by
  rcases eq_or_exists_between hsplit with ⟨rfl, rfl, -⟩ | ⟨mid, rfl, -⟩ | ⟨mid, rfl, -⟩
  · exact h.unique h'
  · exact absurd h (hfirst' before t mid e rfl)
  · exact absurd h' (hfirst before' t' mid e' rfl)

/-- Only one list is the last one that is never closed. -/
theorem NeverClosed.eq_of_last {before before' after after' : List Token} {line line' : Nat}
    (hsplit : before ++ ⟨.opening, line⟩ :: after = before' ++ ⟨.opening, line'⟩ :: after')
    (h : NeverClosed after) (h' : NeverClosed after') (hlast : AllClosed after)
    (hlast' : AllClosed after') : line = line' := by
  rcases eq_or_exists_between hsplit with ⟨-, htoken, -⟩ | ⟨mid, -, hafter⟩ | ⟨mid, -, hafter⟩
  · exact congrArg Token.line htoken
  · exact absurd h' (hlast mid _ after' hafter rfl)
  · exact absurd h (hlast' mid _ after hafter rfl)

/-! ## What the reader holds -/

namespace Reader

/-- What a reader holds as a flat row: the finished forms and the open lists from the outside
in. -/
def pieces (r : Reader) : List Piece :=
  slotsPieces r.forms.reverse ++
    r.stack.reverse.flatMap fun o => .opening (some o.line) :: slotsPieces o.slots.reverse

theorem pieces_push (r : Reader) (d : Datum) : (r.push d).pieces = r.pieces ++ d.pieces := by
  obtain ⟨stack, forms⟩ := r
  cases stack <;> simp [pieces, push, Datum.slotsPieces_append, slotsPieces]

theorem length_stack_push (r : Reader) (d : Datum) :
    (r.push d).stack.length = r.stack.length := by
  obtain ⟨stack, forms⟩ := r
  cases stack <;> rfl

/-- A reader that has taken these tokens: what it holds is what they are flat, and its stack is
as deep as lists are open behind them. -/
structure Holds (r : Reader) (ts : List Token) : Prop where
  spelled : ts.map Token.piece? = r.pieces.map some
  depth : r.stack.length + closings ts = openings ts

theorem holds_start : start.Holds [] := ⟨rfl, rfl⟩

section
variable {r r' : Reader} {ts : List Token} {t : Token}

theorem Holds.push_atom (h : r.Holds ts) {d : Datum} (hd : d.isList = false)
    (ht : t.piece? = some (.atom d)) : (r.push d).Holds (ts ++ [t]) := by
  constructor
  · rw [List.map_append, h.spelled, pieces_push, Datum.pieces_of_atom hd, List.map_append,
      List.map_singleton, List.map_singleton, ht]
  · have hnone : openings [t] = 0 ∧ closings [t] = 0 := by
      obtain ⟨lexeme, line⟩ := t
      cases lexeme <;> first | exact ⟨rfl, rfl⟩ | cases ht
    rw [length_stack_push, openings_append, closings_append, hnone.1, hnone.2]
    exact h.depth

/-- So does the reader behind the next token. -/
theorem Holds.step (h : r.Holds ts) (hstep : r.step t = .ok r') : r'.Holds (ts ++ [t]) := by
  obtain ⟨lexeme, line⟩ := t
  cases lexeme with
  | opening =>
    cases hstep
    constructor
    · rw [List.map_append, h.spelled]
      simp [pieces, slotsPieces, Token.piece?]
    · have := h.depth
      rw [openings_append, closings_append, openings_opening, closings_opening, List.length_cons]
      omega
  | closing =>
    obtain ⟨stack, forms⟩ := r
    cases stack with
    | nil => cases hstep
    | cons top rest =>
      cases hstep
      constructor
      · rw [List.map_append, h.spelled, pieces_push]
        simp [pieces, Datum.pieces, Token.piece?]
      · have hdepth := h.depth
        rw [List.length_cons] at hdepth
        rw [length_stack_push, openings_append, closings_append, openings_closing,
          closings_closing]
        show rest.length + _ = _
        omega
  | word w =>
    cases hstep
    exact h.push_atom (Datum.isList_ofWord w) rfl
  | str s =>
    cases hstep
    exact h.push_atom (d := .str s) rfl rfl
  | sym name =>
    cases hstep
    exact h.push_atom (d := .sym name) rfl rfl
  | _ => cases hstep

/-- A token without a place is the error that it is. -/
theorem Holds.step_of_misplaced (h : r.Holds ts) {e : ReadError} (hfault : Misplaced ts t e) :
    r.step t = .error e := by
  cases hfault with
  | openBracket line => rfl
  | closeBracket line => rfl
  | closing line heven =>
    obtain ⟨stack, forms⟩ := r
    have hdepth := h.depth
    have hnil : stack = [] := List.length_eq_zero_iff.mp (by simp only at hdepth; omega)
    rw [hnil]
    rfl

/-- Any other token is taken. -/
theorem Holds.exists_step (h : r.Holds ts) (hregex : ∀ source, t.lexeme ≠ .regex source)
    (hplaced : ∀ e, ¬ Misplaced ts t e) : ∃ next, r.step t = .ok next := by
  obtain ⟨lexeme, line⟩ := t
  cases lexeme with
  | openBracket => exact absurd (.openBracket line) (hplaced _)
  | closeBracket => exact absurd (.closeBracket line) (hplaced _)
  | regex source => exact absurd rfl (hregex source)
  | closing =>
    obtain ⟨stack, forms⟩ := r
    cases stack with
    | nil =>
      -- no list is open, so as many were closed as opened
      have heven : openings ts = closings ts := by
        have := h.depth
        simp only [List.length_nil] at this
        omega
      exact absurd (.closing line heven) (hplaced _)
    | cons top rest => exact ⟨_, rfl⟩
  | _ => exact ⟨_, rfl⟩

theorem Holds.foldlM (h : r.Holds ts) {us : List Token}
    (hrun : us.foldlM Reader.step r = .ok r') : r'.Holds (ts ++ us) := by
  induction us generalizing r ts with
  | nil =>
    cases hrun
    rwa [List.append_nil]
  | cons t us ih =>
    rw [List.foldlM_cons] at hrun
    obtain ⟨next, hstep, hrest⟩ := exists_of_bind_eq_ok hrun
    have := ih (h.step hstep) hrest
    rwa [List.append_assoc] at this

/-- The tokens of data are all taken, or the run stops at the first one without a place. -/
theorem Holds.foldlM_cases (h : r.Holds ts) (hplaced : WellPlaced ts) {us : List Token}
    (hregex : ∀ t ∈ us, ∀ source, t.lexeme ≠ .regex source) :
    (∃ next, us.foldlM Reader.step r = .ok next ∧ next.Holds (ts ++ us) ∧ WellPlaced (ts ++ us)) ∨
      ∃ before t after e, us = before ++ t :: after ∧ WellPlaced (ts ++ before) ∧
        Misplaced (ts ++ before) t e ∧ us.foldlM Reader.step r = .error e := by
  -- on the tokens that are left; those in front of them were taken and have their places
  induction us generalizing r ts with
  | nil => exact .inl ⟨r, rfl, by rwa [List.append_nil], by rwa [List.append_nil]⟩
  | cons t us ih =>
    rw [List.foldlM_cons]
    by_cases hfault : ∃ e, Misplaced ts t e
    · obtain ⟨e, hfault⟩ := hfault
      refine .inr ⟨[], t, us, e, rfl, ?_, ?_, ?_⟩
      · rwa [List.append_nil]
      · rwa [List.append_nil]
      · rw [h.step_of_misplaced hfault]
        rfl
    · rw [not_exists] at hfault
      obtain ⟨next, hstep⟩ := h.exists_step (hregex t List.mem_cons_self) hfault
      rw [hstep]
      rcases ih (h.step hstep) (hplaced.append_singleton hfault)
        (fun u hu => hregex u (List.mem_cons_of_mem t hu)) with
        ⟨last, hrun, hholds, hall⟩ | ⟨before, u, after, e, rfl, hfirst, hmisplaced, hrun⟩
      · rw [List.append_assoc] at hholds hall
        exact .inl ⟨last, hrun, hholds, hall⟩
      · rw [List.append_assoc] at hfirst hmisplaced
        exact .inr ⟨t :: before, u, after, e, rfl, hfirst, hmisplaced, hrun⟩

end

/-! ## The tokens of data -/

/-- The token of an atom puts it where it belongs. -/
theorem step_of_piece?_atom {t : Token} {d : Datum} (h : t.piece? = some (.atom d)) (r : Reader) :
    r.step t = .ok (r.push d) := by
  obtain ⟨lexeme, line⟩ := t
  cases lexeme <;> cases h <;> rfl

theorem eq_of_piece?_opening {t : Token} {line : Option Nat}
    (h : t.piece? = some (.opening line)) : ∃ l, t = ⟨.opening, l⟩ ∧ line = some l := by
  obtain ⟨lexeme, l⟩ := t
  cases lexeme <;> cases h
  exact ⟨l, rfl, rfl⟩

theorem lexeme_of_piece?_closing {t : Token} (h : t.piece? = some .closing) :
    t.lexeme = .closing := by
  obtain ⟨lexeme, l⟩ := t
  cases lexeme <;> cases h
  rfl

theorem foldl_push_open (line : Nat) (seen : List Datum) (stack : List OpenList)
    (forms ds : List Datum) :
    ds.foldl push ⟨⟨line, seen⟩ :: stack, forms⟩ =
      ⟨⟨line, ds.reverse ++ seen⟩ :: stack, forms⟩ := by
  induction ds generalizing seen with
  | nil => rfl
  | cons d ds ih =>
    rw [List.foldl_cons, show push ⟨⟨line, seen⟩ :: stack, forms⟩ d =
      ⟨⟨line, d :: seen⟩ :: stack, forms⟩ from rfl, ih, List.reverse_cons, List.append_assoc]
    rfl

theorem foldl_push_done (forms ds : List Datum) :
    ds.foldl push ⟨[], forms⟩ = ⟨[], ds.reverse ++ forms⟩ := by
  induction ds generalizing forms with
  | nil => rfl
  | cons d ds ih =>
    rw [List.foldl_cons, show push ⟨[], forms⟩ d = ⟨[], d :: forms⟩ from rfl, ih,
      List.reverse_cons, List.append_assoc]
    rfl

mutual
/-- The tokens of a datum put it where it belongs. -/
theorem foldlM_pieces (d : Datum) {ts : List Token} (h : ts.map Token.piece? = d.pieces.map some)
    (r : Reader) : ts.foldlM step r = (.ok (r.push d) : Except ReadError Reader) := by
  cases d with
  | list line slots =>
    rw [Datum.pieces, List.map_cons, List.map_append] at h
    obtain ⟨t, rest, rfl, ht, hrest⟩ := List.map_eq_cons_iff.mp h
    obtain ⟨us, last, rfl, hus, hlast⟩ := List.map_eq_append_iff.mp hrest
    obtain ⟨u, rfl, hu⟩ := List.map_eq_singleton_iff.mp hlast
    obtain ⟨l, rfl, rfl⟩ := eq_of_piece?_opening ht
    obtain ⟨lexeme, l'⟩ := u
    obtain rfl : lexeme = .closing := lexeme_of_piece?_closing hu
    rw [List.foldlM_cons]
    show List.foldlM step ⟨⟨l, []⟩ :: r.stack, r.forms⟩ _ = _
    rw [List.foldlM_append, foldlM_slotsPieces slots hus, foldl_push_open, List.append_nil]
    show Except.ok (push r (.list (some l) (List.reverse (List.reverse slots)))) = _
    rw [List.reverse_reverse]
  | _ =>
    obtain ⟨t, rfl, ht⟩ := List.map_eq_singleton_iff.mp h
    rw [List.foldlM_cons, step_of_piece?_atom ht]
    rfl
termination_by structural d

/-- The same for a row of slots. -/
theorem foldlM_slotsPieces (ds : List Datum) {ts : List Token}
    (h : ts.map Token.piece? = (slotsPieces ds).map some) (r : Reader) :
    ts.foldlM step r = (.ok (ds.foldl push r) : Except ReadError Reader) := by
  cases ds with
  | nil =>
    rw [List.map_eq_nil_iff.mp h]
    rfl
  | cons d ds =>
    rw [slotsPieces, List.map_append] at h
    obtain ⟨us, vs, rfl, hus, hvs⟩ := List.map_eq_append_iff.mp h
    rw [List.foldlM_append, foldlM_pieces d hus]
    exact foldlM_slotsPieces ds hvs (r.push d)
termination_by structural ds
end

/-- The tokens of forms are read as these. -/
theorem readTokens_of_pieces {ts : List Token} {forms : List Datum}
    (h : ts.map Token.piece? = (slotsPieces forms).map some) : readTokens ts = .ok forms := by
  rw [readTokens, foldlM_slotsPieces forms h, show start = ⟨[], []⟩ from rfl, foldl_push_done,
    List.append_nil]
  show Except.ok (List.reverse (List.reverse forms)) = _
  rw [List.reverse_reverse]

end Reader

open Reader

/-- In front of each token of data as many lists are opened as closed, at least, and behind all
of them equally many. -/
theorem balanced_of_pieces {ts : List Token} {ds : List Datum}
    (h : ts.map Token.piece? = (slotsPieces ds).map some) :
    NeverClosed ts ∧ openings ts = closings ts := by
  have hrun := foldlM_slotsPieces ds h start
  constructor
  · rintro us ⟨vs, rfl⟩
    rw [List.foldlM_append] at hrun
    obtain ⟨r, hus, -⟩ := exists_of_bind_eq_ok hrun
    have hdepth := (holds_start.foldlM hus).depth
    rw [List.nil_append] at hdepth
    omega
  · have hdepth := (holds_start.foldlM hrun).depth
    rw [show start = ⟨[], []⟩ from rfl, foldl_push_done] at hdepth
    simpa using hdepth.symm

/-- So all lists in it are closed. -/
theorem allClosed_of_pieces {ts : List Token} {ds : List Datum}
    (h : ts.map Token.piece? = (slotsPieces ds).map some) : AllClosed ts := by
  obtain ⟨hnever, heven⟩ := balanced_of_pieces h
  rintro before ⟨_, line⟩ after rfl rfl hafter
  have hbefore := hnever before (List.prefix_append _ _)
  have hrest := hafter after (List.prefix_refl after)
  rw [openings_append, closings_append, openings_cons, closings_cons, openings_opening,
    closings_opening] at heven
  omega

/-! ## What is read -/

/-- What the reader makes of the tokens of data text is what they spell. -/
theorem reads_readTokens {ts : List Token}
    (hregex : ∀ t ∈ ts, ∀ source, t.lexeme ≠ .regex source) : Reads ts (readTokens ts) := by
  rw [readTokens]
  rcases holds_start.foldlM_cases wellPlaced_nil hregex with
    ⟨r, hrun, hholds, hplaced⟩ | ⟨before, t, after, e, hsplit, hfirst, hfault, hrun⟩
  · rw [hrun]
    rw [List.nil_append] at hholds hplaced
    have hspelled := hholds.spelled
    obtain ⟨stack, forms⟩ := r
    cases stack with
    | nil =>
      rw [pieces, List.reverse_nil, List.flatMap_nil, List.append_nil] at hspelled
      exact .forms hplaced (allClosed_of_pieces hspelled) hspelled
    | cons top rest =>
      -- the innermost open list holds all that stands behind its parenthesis
      rw [pieces, List.reverse_cons, List.flatMap_append, List.flatMap_singleton,
        ← List.append_assoc, List.map_append, List.map_cons] at hspelled
      obtain ⟨before, others, rfl, -, hothers⟩ := List.map_eq_append_iff.mp hspelled
      obtain ⟨t, after, rfl, ht, hafter⟩ := List.map_eq_cons_iff.mp hothers
      obtain ⟨line, rfl, hline⟩ := eq_of_piece?_opening ht
      cases hline
      exact .unclosed hplaced rfl (balanced_of_pieces hafter).1 (allClosed_of_pieces hafter)
  · rw [hrun]
    rw [List.nil_append] at hfirst hfault
    exact .misplaced hsplit hfirst hfault

/-- Tokens spell one thing only. -/
theorem Reads.unique {ts : List Token} {result result' : Except ReadError (List Datum)}
    (h : Reads ts result) (h' : Reads ts result') : result = result' := by
  cases h with
  | misplaced hsplit hfirst hfault =>
    cases h' with
    | misplaced hsplit' hfirst' hfault' =>
      rw [Misplaced.eq_of_first (hsplit.symm.trans hsplit') hfirst hfirst' hfault hfault']
    | unclosed hplaced => exact absurd hfault (hplaced _ _ _ _ hsplit)
    | forms hplaced => exact absurd hfault (hplaced _ _ _ _ hsplit)
  | unclosed hplaced hsplit hnever hlast =>
    cases h' with
    | misplaced hsplit' _ hfault => exact absurd hfault (hplaced _ _ _ _ hsplit')
    | unclosed _ hsplit' hnever' hlast' =>
      rw [NeverClosed.eq_of_last (hsplit.symm.trans hsplit') hnever hnever' hlast hlast']
    | forms _ hclosed => exact absurd hnever (hclosed _ _ _ hsplit rfl)
  | forms hplaced hclosed hspelled =>
    cases h' with
    | misplaced hsplit _ hfault => exact absurd hfault (hplaced _ _ _ _ hsplit)
    | unclosed _ hsplit hnever => exact absurd hnever (hclosed _ _ _ hsplit rfl)
    | forms _ _ hspelled' =>
      exact (readTokens_of_pieces hspelled).symm.trans (readTokens_of_pieces hspelled')

theorem readTokens_eq_iff_reads {ts : List Token}
    (hregex : ∀ t ∈ ts, ∀ source, t.lexeme ≠ .regex source)
    (result : Except ReadError (List Datum)) : readTokens ts = result ↔ Reads ts result := by
  have hreads := reads_readTokens hregex
  constructor
  · rintro rfl
    exact hreads
  · exact hreads.unique

/-- Reading all forms never fails for their number. -/
theorem Reads.ne_formCount {ts : List Token} (count : Nat) :
    ¬ Reads ts (.error (.formCount count)) := by
  intro h
  generalize hresult : (Except.error (.formCount count) : Except ReadError (List Datum)) = result
    at h
  cases h with
  | misplaced _ _ hfault =>
    cases hresult
    cases hfault
  | unclosed => cases hresult
  | forms => cases hresult

/-- A list is read as the only list exactly if it is read as the only form. -/
theorem readNode_eq_ok_iff (text : String) (n : Node) :
    readNode text = .ok n ↔ readDatum text = .ok n.toDatum := by
  rw [readNode, readDatum]
  cases readAll text with
  | error e => constructor <;> intro h <;> cases h
  | ok forms =>
    cases forms with
    | nil => constructor <;> intro h <;> cases h
    | cons d rest =>
      cases rest with
      | cons _ _ => cases d <;> constructor <;> intro h <;> cases h
      | nil =>
        cases d with
        | list line slots =>
          show Except.ok ⟨line, slots⟩ = Except.ok n ↔
            Except.ok (.list line slots) = Except.ok n.toDatum
          obtain ⟨l, ds⟩ := n
          simp [Node.toDatum]
        | _ => constructor <;> intro h <;> cases h

/-- **Reading data text.** Text that cannot be scanned is the error of the scanner. Any other
text is read as its tokens spell, by the reader and by the descent alike: the first token
without a place is an error, else the innermost list that is never closed is one, else the
forms are just the tokens. The number of forms is never at fault, and a list that is read as
the only form is what is read as the only list. -/
theorem readAll_eq_iff_reads (text : String) :
    (∀ e, tokenize .data text.toList = .error e → readAll text = .error (.lex e)) ∧
      (∀ ts, tokenize .data text.toList = .ok ts →
        readAll text = Datum.Descent.topForms ts ∧
          ∀ result, readAll text = result ↔ Reads ts result) ∧
      (∀ count, readAll text ≠ .error (.formCount count)) ∧
      ∀ n, readNode text = .ok n ↔ readDatum text = .ok n.toDatum := by
  have hscanned : ∀ ts, tokenize .data text.toList = .ok ts → readAll text = readTokens ts := by
    intro ts hts
    rw [readAll, hts]
  have hreads : ∀ ts, tokenize .data text.toList = .ok ts →
      ∀ result, readAll text = result ↔ Reads ts result := by
    intro ts hts
    rw [hscanned ts hts]
    exact readTokens_eq_iff_reads (lexeme_ne_regex_of_tokenize hts)
  refine ⟨?_, ?_, ?_, readNode_eq_ok_iff text⟩
  · intro e he
    rw [readAll, he]
  · intro ts hts
    refine ⟨?_, hreads ts hts⟩
    rw [hscanned ts hts, readTokens_eq_topForms]
  · intro count hcount
    cases htokens : tokenize .data text.toList with
    | error e =>
      rw [readAll, htokens] at hcount
      cases hcount
    | ok ts => exact Reads.ne_formCount count ((hreads ts htokens _).mp hcount)

/-- The innermost list that is never closed is the last one of them. -/
example : readAll "(a\n(b (c)\n" = .error (.unclosed 2) := by rfl

/-- A bracket in a list that is never closed: it is the bracket that is at fault. -/
theorem readAll_eq_iff_reads_open_bracket :
    tokenize .data "(a\n]".toList = .ok [⟨.opening, 1⟩, ⟨.word "a", 1⟩, ⟨.closeBracket, 2⟩] ∧
    readAll "(a\n]" = .error (.unsupportedToken "]" 2) := by
  have hts : tokenize .data "(a\n]".toList =
      .ok [⟨.opening, 1⟩, ⟨.word "a", 1⟩, ⟨.closeBracket, 2⟩] := by rfl
  have hplaced : WellPlaced [⟨.opening, 1⟩, ⟨.word "a", 1⟩] :=
    (wellPlaced_nil.append_singleton (t := ⟨.opening, 1⟩) nofun).append_singleton nofun
  have hsplit : [⟨.opening, 1⟩, ⟨.word "a", 1⟩, ⟨.closeBracket, 2⟩] =
      [⟨.opening, 1⟩, ⟨.word "a", 1⟩] ++ (⟨.closeBracket, 2⟩ : Token) :: [] := rfl
  refine ⟨hts, ?_⟩
  exact (((readAll_eq_iff_reads "(a\n]").2.1 _ hts).2 _).mpr
    (.misplaced hsplit hplaced (.closeBracket 2))

end SexprQuery
