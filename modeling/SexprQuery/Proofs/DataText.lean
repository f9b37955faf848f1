import SexprQuery.Datum.Reader
import SexprQuery.Datum.Walk
import SexprQuery.Proofs.DataTokens

/-!
# Data text reads back

Written forms are read back one a line. `Datum.reread` says what the reader makes of
a datum that was written on a line, and it says so for every datum
(`readAll_renderForms`): all comes back but the numbers that are not finite, which
have no numeral and are written as words.

* `readAll_renderForms_of_finite` — finite data come back as equal data, and the
  nodes of a form carry the number of its line;
* `readAll_renderForms_readAll` — data that were read come back as equal data exactly
  if no word of the text spells a number beyond the finite ones.
-/

namespace SexprQuery

open Datum

namespace Datum

mutual
/-- What the reader makes of a datum that was written on a line. -/
def reread (line : Nat) : Datum → Datum
  | .float x => ofWord (String.ofList x.debugChars)
  | .list _ slots => .list (some line) (slotsReread line slots)
  | d => d
termination_by structural d => d

/-- The same for a row of slots. -/
def slotsReread (line : Nat) : List Datum → List Datum
  | [] => []
  | d :: ds => d.reread line :: slotsReread line ds
termination_by structural ds => ds
end

end Datum

/-! ## No line breaks -/

theorem newline_notMem_quoteChars (cs : List Char) : '\n' ∉ quoteChars cs := by
  have hchar : ∀ c, '\n' ∉ quoteChar c := by
    intro c
    unfold quoteChar
    split
    case h_6 hbreak _ _ => exact fun h => hbreak (List.mem_singleton.mp h).symm
    all_goals decide
  simp [quoteChars, List.mem_flatMap, hchar]

theorem newline_notMem_word {kind : TextKind} {cs : List Char} (h : IsWord kind cs) :
    '\n' ∉ cs := by
  intro hmem
  cases h.inside '\n' hmem

mutual
/-- Data text is one line. -/
theorem newline_notMem_sourceChars (d : Datum) : '\n' ∉ d.sourceChars := by
  cases d with
  | str s => exact newline_notMem_quoteChars s.toList
  | sym name =>
    rw [sourceChars, symbolChars]
    split
    · next h => exact newline_notMem_word (isBareName_spec h).1
    · simp [newline_notMem_quoteChars]
  | list l slots =>
    rw [sourceChars, List.mem_cons, not_or]
    exact ⟨by decide, newline_notMem_sourceSlots slots⟩
  | _ => exact newline_notMem_word (isWord_sourceChars .data rfl)
termination_by structural d

theorem newline_notMem_sourceSlots (ds : List Datum) : '\n' ∉ sourceSlots ds := by
  cases ds with
  | nil => decide
  | cons d ds =>
    rw [sourceSlots, List.mem_append, not_or]
    exact ⟨newline_notMem_sourceChars d, newline_notMem_sourceMore ds⟩
termination_by structural ds

theorem newline_notMem_sourceMore (ds : List Datum) : '\n' ∉ sourceMore ds := by
  cases ds with
  | nil => decide
  | cons d ds =>
    rw [sourceMore, List.cons_append, List.mem_cons, List.mem_append, not_or, not_or]
    exact ⟨by decide, newline_notMem_sourceChars d, newline_notMem_sourceMore ds⟩
termination_by structural ds
end

/-! ## Reading the tokens of a datum -/

namespace Reader

mutual
/-- The reader takes the tokens of a datum and puts one datum where it belongs. -/
theorem foldlM_lexemes (line : Nat) (d : Datum) (r : Reader) :
    (onLine line (d.lexemes isBareName)).foldlM step r =
      (.ok (r.push (d.reread line)) : Except ReadError Reader) := by
  cases d with
  | list l slots =>
    rw [lexemes, reread, onLine, List.map_cons, List.map_append, List.foldlM_cons]
    show List.foldlM step ⟨⟨line, []⟩ :: r.stack, r.forms⟩ _ = _
    rw [List.foldlM_append]
    show (do
      let open_ ← List.foldlM step ⟨⟨line, []⟩ :: r.stack, r.forms⟩
        (onLine line (slotsLexemes isBareName slots))
      List.foldlM step open_ _) = _
    rw [foldlM_slotsLexemes line slots, List.append_nil]
    show Except.ok (push r (.list (some line) (List.reverse (List.reverse _)))) = _
    rw [List.reverse_reverse]
  | sym name =>
    rw [lexemes]
    split
    · next h =>
      show (Except.ok (r.push (ofWord name)) : Except ReadError Reader) = _
      rw [(isBareName_spec h).2]
      rfl
    · rfl
  | int n =>
    show (Except.ok (r.push (ofWord _)) : Except ReadError Reader) = _
    rw [ofWord_sourceChars rfl rfl]
    rfl
  | bool b => cases b <;> rfl
  | _ => rfl
termination_by structural d

/-- The tokens of slots fill the list that is open. -/
theorem foldlM_slotsLexemes (line : Nat) (ds : List Datum) (l : Nat) (slots : List Datum)
    (rest : List OpenList) (forms : List Datum) :
    (onLine line (slotsLexemes isBareName ds)).foldlM step ⟨⟨l, slots⟩ :: rest, forms⟩ =
      (.ok ⟨⟨l, (slotsReread line ds).reverse ++ slots⟩ :: rest, forms⟩ :
        Except ReadError Reader) := by
  cases ds with
  | nil => rfl
  | cons d ds =>
    rw [slotsLexemes, onLine_append, List.foldlM_append, foldlM_lexemes line d]
    show List.foldlM step (push ⟨⟨l, slots⟩ :: rest, forms⟩ (d.reread line)) _ = _
    rw [push, foldlM_slotsLexemes line ds, slotsReread, List.reverse_cons, List.append_assoc]
    rfl
termination_by structural ds
end

end Reader

/-! ## Reading written forms -/

/-- The tokens of forms that are written one a line. -/
def formTokens (line : Nat) (forms : List Datum) : List Token :=
  (forms.zipIdx line).flatMap fun form => onLine form.2 (form.1.lexemes isBareName)

theorem scanFrom_forms (line : Nat) (forms : List Datum) :
    scanFrom .data line (forms.flatMap fun d => d.sourceChars ++ ['\n']) =
      .ok (formTokens line forms) := by
  induction forms generalizing line with
  | nil => rfl
  | cons d ds ih =>
    rw [List.flatMap_cons, ← writtenChars_isBareName, List.append_assoc, List.singleton_append,
      scanFrom_writtenChars isWordChoice_isBareName line d (breaks_newline _), scanFrom_newline,
      ih]
    rfl

theorem foldlM_formTokens (line : Nat) (forms done : List Datum) :
    (formTokens line forms).foldlM Reader.step ⟨[], done⟩ =
      (.ok ⟨[], ((forms.zipIdx line).map fun form => form.1.reread form.2).reverse ++ done⟩ :
        Except ReadError Reader) := by
  induction forms generalizing line done with
  | nil => rfl
  | cons d ds ih =>
    rw [formTokens, List.zipIdx_cons, List.flatMap_cons, List.foldlM_append,
      Reader.foldlM_lexemes line d]
    show (formTokens (line + 1) ds).foldlM Reader.step ⟨[], d.reread line :: done⟩ = _
    rw [ih, List.map_cons, List.reverse_cons, List.append_assoc]
    rfl

/-- **One form a line.** Whatever the data are, what was written is read, and every form
comes back as its line makes of it. -/
theorem readAll_renderForms (forms : List Datum) :
    readAll (renderForms forms) =
      .ok ((forms.zipIdx 1).map fun form => form.1.reread form.2) := by
  rw [readAll, renderForms, String.toList_ofList, tokenize_eq_scanFrom, scanFrom_forms]
  show (do (← (formTokens 1 forms).foldlM Reader.step ⟨[], []⟩).finish) = _
  rw [foldlM_formTokens, List.append_nil]
  show Except.ok (List.reverse (List.reverse _)) = _
  rw [List.reverse_reverse]

/-! ## What comes back -/

mutual
/-- A datum comes back as an equal one exactly if its numbers are finite. -/
theorem reread_beq (line : Nat) (d : Datum) : (d.reread line).beq d = d.isFinite := by
  cases d with
  | float x =>
    rw [reread]
    -- `inf` and `NaN` are no numbers to the reader, so they come back as symbols
    cases x with
    | finite x =>
      rw [ofWord_of_number? (number?_debugChars x)]
      show ((Binary64.finite x == .finite x) : Bool) = true
      simp [BEq.beq, Binary64.beq]
    | infinite negative => cases negative <;> rfl
    | nan => rfl
  | list l slots =>
    rw [reread, Datum.beq, slotsReread_beq line slots, isFinite]
  | nil => rfl
  | bool b => exact beq_self_eq_true b
  | int n => exact beq_self_eq_true n
  | str s => exact beq_self_eq_true s
  | sym name => exact beq_self_eq_true name
termination_by structural d

theorem slotsReread_beq (line : Nat) (ds : List Datum) :
    beqSlots (slotsReread line ds) ds = slotsFinite ds := by
  cases ds with
  | nil => rfl
  | cons d ds =>
    rw [slotsReread, beqSlots, reread_beq line d, slotsReread_beq line ds, slotsFinite]
termination_by structural ds
end

theorem zipIdx_reread_beq (line : Nat) (forms : List Datum) :
    beqSlots ((forms.zipIdx line).map fun form => form.1.reread form.2) forms =
      slotsFinite forms := by
  induction forms generalizing line with
  | nil => rfl
  | cons d ds ih =>
    rw [List.zipIdx_cons, List.map_cons, beqSlots, reread_beq, ih, slotsFinite]

mutual
/-- The nodes of what comes back carry the line it was written on. -/
theorem line_of_mem_nodes_reread {line : Nat} {n : Node} (d : Datum)
    (h : n ∈ (d.reread line).nodes) : n.line = some line := by
  cases d with
  | list l slots =>
    rw [reread, nodes, List.mem_cons] at h
    rcases h with rfl | h
    · rfl
    · exact line_of_mem_slotsNodes_reread slots h
  | float x =>
    have hatom := isList_ofWord (String.ofList x.debugChars)
    rw [reread] at h
    -- words spell atoms only, so there is no node in what comes back
    cases hword : ofWord (String.ofList x.debugChars) with
    | list l slots => rw [hword] at hatom; cases hatom
    | _ => rw [hword] at h; cases h
  | _ => cases h
termination_by structural d

theorem line_of_mem_slotsNodes_reread {line : Nat} {n : Node} (ds : List Datum)
    (h : n ∈ slotsNodes (slotsReread line ds)) : n.line = some line := by
  cases ds with
  | nil => cases h
  | cons d ds =>
    rw [slotsReread, slotsNodes, List.mem_append] at h
    rcases h with h | h
    · exact line_of_mem_nodes_reread d h
    · exact line_of_mem_slotsNodes_reread ds h
termination_by structural ds
end

/-- **Finite data.** Forms whose numbers are finite come back as equal forms, and all
nodes of the form with number `i` carry line `i + 1`, since data text is one line. -/
theorem readAll_renderForms_of_finite (forms : List Datum)
    (h : ∀ d ∈ forms, d.isFinite = true) :
    ∃ again, readAll (renderForms forms) = .ok again ∧ beqSlots again forms = true ∧
      (∀ i d, again[i]? = some d → ∀ n ∈ d.nodes, n.line = some (i + 1)) ∧
      ∀ d : Datum, '\n' ∉ d.source.toList := by
  refine ⟨_, readAll_renderForms forms, ?_, ?_, ?_⟩
  · rw [zipIdx_reread_beq, slotsFinite_eq_all]
    exact List.all_eq_true.mpr h
  · intro i d hd n hn
    rw [List.getElem?_map, List.getElem?_zipIdx, Option.map_map] at hd
    obtain ⟨form, -, rfl⟩ := Option.map_eq_some_iff.mp hd
    rw [Nat.add_comm i 1]
    exact line_of_mem_nodes_reread form hn
  · intro d
    rw [source, String.toList_ofList]
    exact newline_notMem_sourceChars d

/-- Names that spell a number or hold a line break, in a list and alone. -/
theorem readAll_renderForms_odd_names :
    let forms : List Datum := [.list none [.sym "1", .str "a\nb", .float (.zero true)], .sym ")"]
    (∀ d ∈ forms, d.isFinite = true) ∧
      ∃ again, readAll (renderForms forms) = .ok again ∧ beqSlots again forms = true ∧
        (∀ i d, again[i]? = some d → ∀ n ∈ d.nodes, n.line = some (i + 1)) ∧
        ∀ d : Datum, '\n' ∉ d.source.toList := by
  intro forms
  have hfinite : ∀ d ∈ forms, d.isFinite = true := by decide
  exact ⟨hfinite, readAll_renderForms_of_finite forms hfinite⟩

/-! ## Words beyond the finite numbers -/

theorem ofDecimal_ne_nan (negative : Bool) (coefficient : Nat) (exponent : Int) :
    Binary64.ofDecimal negative coefficient exponent ≠ .nan := by
  have hparts : ∀ mantissa scale, Binary64.ofParts negative mantissa scale ≠ .nan := by
    intro mantissa scale
    unfold Binary64.ofParts
    split <;> rintro ⟨⟩
  have hratio : ∀ num den, Binary64.ofRatio negative num den ≠ .nan := by
    intro num den
    unfold Binary64.ofRatio
    dsimp only
    split <;> exact hparts _ _
  unfold Binary64.ofDecimal
  dsimp only
  split
  · rintro ⟨⟩
  split
  · rintro ⟨⟩
  split <;> exact hratio _ _

/-- A word that is tried as a number does not start with a letter. -/
theorem toLower_ne_of_looksNumeric {cs body : List Char} {negative : Bool}
    (hsplit : Decimal.splitSign cs = (negative, body)) (h : looksNumeric cs = true) :
    (body.map Char.toLower).head? ≠ some 'n' := by
  rw [looksNumeric, hsplit] at h
  cases body with
  | nil => cases h
  | cons c rest =>
    simp only [Bool.or_eq_true, Bool.and_eq_true, beq_iff_eq] at h
    intro hhead
    rcases h with hdigit | ⟨rfl, -⟩
    · -- digits stand before the capitals, so they have no other case
      have hbelow : c.val ≤ '9'.val := by
        simp only [Decimal.isDigit, Bool.and_eq_true, decide_eq_true_eq] at hdigit
        exact hdigit.2
      have hlower : c.toLower = c := dif_neg fun hcapital =>
        absurd (UInt32.le_trans hcapital.1 hbelow) (by decide)
      rw [hlower.symm.trans (Option.some.inj hhead)] at hdigit
      cases hdigit
    · exact absurd (Option.some.inj hhead) (by decide)

/-- A numeral does not spell `NaN`. -/
theorem parse?_ne_nan {cs : List Char} (h : looksNumeric cs = true) :
    Binary64.parse? cs ≠ some .nan := by
  obtain ⟨negative, body, hsplit⟩ : ∃ negative body, Decimal.splitSign cs = (negative, body) :=
    ⟨_, _, rfl⟩
  have hspecial : Binary64.special? negative body ≠ some .nan := by
    have hhead := toLower_ne_of_looksNumeric hsplit h
    unfold Binary64.special?
    dsimp only
    split
    · next hnan => exact absurd (by rw [hnan]; rfl) hhead
    split <;> rintro ⟨⟩
  rw [Binary64.parse?, hsplit]
  dsimp only
  split
  · next x hx =>
    rintro ⟨⟩
    rw [Binary64.unsigned?] at hx
    obtain ⟨e, -, he⟩ := Option.map_eq_some_iff.mp (Option.ite_none_left_eq_some.mp hx).2
    exact ofDecimal_ne_nan _ _ _ he
  · exact hspecial

/-- A word that spells `NaN` is not tried as a number. -/
theorem ofWord_ne_nan (word : String) : ofWord word ≠ .float .nan := by
  have hnumber : number? word.toList ≠ some (.float .nan) := by
    rw [number?]
    split
    · next h =>
      split
      · rintro ⟨⟩
      · intro hmap
        obtain ⟨x, hx, hx'⟩ := Option.map_eq_some_iff.mp hmap
        cases hx'
        exact parse?_ne_nan h hx
    · rintro ⟨⟩
  rw [ofWord]
  split
  · rintro ⟨⟩
  split
  · rintro ⟨⟩
  split
  · rintro ⟨⟩
  cases hd : number? word.toList with
  | none => rintro ⟨⟩
  | some d => exact fun h => hnumber (hd.trans (congrArg some h))

/-- A word is a number beyond the finite ones, or all that it spells is finite. -/
theorem isFinite_ofWord_iff (word : String) :
    (ofWord word).isFinite = true ↔ ∀ negative, ofWord word ≠ .float (.infinite negative) := by
  have hatom := isList_ofWord word
  have hnan := ofWord_ne_nan word
  cases hword : ofWord word with
  | float x =>
    cases x with
    | nan => exact absurd hword hnan
    | infinite negative => simp [isFinite]
    | finite x => simp [isFinite]
  | list line slots => rw [hword] at hatom; cases hatom
  | _ => simp [isFinite]

/-- True if a word does not spell a number that is not finite. -/
def Lexeme.isFinite : Lexeme → Bool
  | .word w => (ofWord w).isFinite
  | _ => true

namespace Reader

/-- True if all numbers that the reader holds are finite. -/
def isFinite (r : Reader) : Bool :=
  slotsFinite r.forms && r.stack.all fun top => slotsFinite top.slots

theorem isFinite_push (r : Reader) (d : Datum) :
    (r.push d).isFinite = (r.isFinite && d.isFinite) := by
  unfold push
  split
  · next h =>
    rw [isFinite, isFinite, slotsFinite]
    ac_rfl
  · next top rest h =>
    rw [isFinite, isFinite, h, List.all_cons, List.all_cons, slotsFinite]
    ac_rfl

/-- A token adds at most one number, the one that it spells. -/
theorem isFinite_step {r r' : Reader} {t : Token} (h : r.step t = .ok r') :
    r'.isFinite = (r.isFinite && t.lexeme.isFinite) := by
  obtain ⟨lexeme, line⟩ := t
  cases lexeme with
  | opening =>
    cases h
    simp [isFinite, slotsFinite, Lexeme.isFinite]
  | closing =>
    obtain ⟨stack, forms⟩ := r
    cases stack with
    | nil => cases h
    | cons top rest =>
      cases h
      -- closing a list moves its slots and adds nothing
      refine Eq.trans ?_ (Bool.and_true _).symm
      rw [isFinite_push, Datum.isFinite, isFinite, isFinite, slotsFinite_eq_all, slotsFinite_eq_all,
        List.all_cons, List.all_reverse, slotsFinite_eq_all]
      ac_rfl
  | word w =>
    cases h
    exact isFinite_push r (ofWord w)
  | str text =>
    cases h
    exact isFinite_push r (.str text)
  | sym name =>
    cases h
    exact isFinite_push r (.sym name)
  | _ => cases h

/-- What has been read is finite exactly if every word was. -/
theorem isFinite_foldlM (ts : List Token) {r r' : Reader}
    (h : ts.foldlM step r = Except.ok (ε := ReadError) r') :
    r'.isFinite = (r.isFinite && ts.all fun t => t.lexeme.isFinite) := by
  induction ts generalizing r with
  | nil =>
    cases h
    rw [List.all_nil, Bool.and_true]
  | cons t ts ih =>
    rw [List.foldlM_cons] at h
    cases hstep : r.step t with
    | error e => rw [hstep] at h; cases h
    | ok next =>
      rw [hstep] at h
      rw [ih h, isFinite_step hstep, List.all_cons, Bool.and_assoc]

end Reader

/-- What was read holds a number that is not finite exactly if some word spells one. -/
theorem slotsFinite_of_readTokens {ts : List Token} {forms : List Datum}
    (h : readTokens ts = .ok forms) :
    slotsFinite forms = ts.all fun t => t.lexeme.isFinite := by
  rw [readTokens] at h
  cases hfold : ts.foldlM Reader.step Reader.start with
  | error e => rw [hfold] at h; cases h
  | ok r =>
    rw [hfold] at h
    have hr := Reader.isFinite_foldlM ts hfold
    obtain ⟨stack, done⟩ := r
    cases stack with
    | cons top rest => cases h
    | nil =>
      cases h
      rw [slotsFinite_eq_all, List.all_reverse, ← slotsFinite_eq_all]
      rw [Reader.isFinite, List.all_nil, Bool.and_true] at hr
      exact hr

/-- **Data that were read.** They come back as equal data exactly if no word of the text
spells a number beyond the finite ones: such a number is infinite, and an infinity is
written as a word that is a symbol. -/
theorem readAll_renderForms_readAll {text : String} {forms : List Datum}
    (h : readAll text = .ok forms) :
    ∃ ts again, tokenize .data text.toList = .ok ts ∧ readAll (renderForms forms) = .ok again ∧
      (beqSlots again forms = true ↔
        ∀ t ∈ ts, ∀ word negative, t.lexeme = .word word →
          ofWord word ≠ .float (.infinite negative)) := by
  rw [readAll] at h
  cases htokens : tokenize .data text.toList with
  | error e => rw [htokens] at h; cases h
  | ok ts =>
    rw [htokens] at h
    refine ⟨ts, _, rfl, readAll_renderForms forms, ?_⟩
    rw [zipIdx_reread_beq, slotsFinite_of_readTokens h, List.all_eq_true]
    constructor
    · intro hall t ht word negative hword
      have hfinite := hall t ht
      rw [hword] at hfinite
      exact (isFinite_ofWord_iff word).mp hfinite negative
    · intro hall t ht
      obtain ⟨lexeme, line⟩ := t
      cases lexeme with
      | word w => exact (isFinite_ofWord_iff w).mpr fun negative => hall _ ht w negative rfl
      | _ => rfl

/-- A sign is lost when a number is written again, and the number is the same. -/
theorem readAll_renderForms_signed_word :
    let forms : List Datum := [.list (some 1) [.sym "x", .int 5]]
    readAll "(x +5)" = .ok forms ∧
      ∃ ts again, tokenize .data "(x +5)".toList = .ok ts ∧
        readAll (renderForms forms) = .ok again ∧
        (beqSlots again forms = true ↔
          ∀ t ∈ ts, ∀ word negative, t.lexeme = .word word →
            ofWord word ≠ .float (.infinite negative)) := by
  intro forms
  have hread : readAll "(x +5)" = .ok forms := rfl
  exact ⟨hread, readAll_renderForms_readAll hread⟩

/-- A word past the largest finite number is read as an infinity, written as `inf` and
read back as a symbol. -/
theorem readAll_renderForms_beyond_range :
    readAll "1e999" = .ok [.float (.infinite false)] ∧
      readAll (renderForms [.float (.infinite false)]) = .ok [.sym "inf"] ∧
      beqSlots [.sym "inf"] [.float (.infinite false)] = false := by
  have hplaces : Binary64.digitCount 1 = 1 := by
    rw [Binary64.digitCount]
    rfl
  have hparse : Binary64.ofDecimal false 1 999 = .infinite false := by
    rw [Binary64.ofDecimal, hplaces]
    rfl
  have hword : ofWord "1e999" = .float (.infinite false) := by
    show Datum.float (Binary64.ofDecimal false 1 999) = _
    rw [hparse]
  refine ⟨?_, readAll_renderForms _, rfl⟩
  show Except.ok [ofWord "1e999"] = _
  rw [hword]

end SexprQuery
