import SexprQuery.Proofs.NumberText
import SexprQuery.Proofs.Scanning

/-!
# Written data as tokens

Data stand in data text and in pattern text, and the two differ only in the names
that they let stand as bare words. `Datum.writtenChars` takes that choice as a
parameter, `Datum.lexemes` lists the tokens, and `scanFrom_writtenChars` says that
the scanner finds just these on one line, whatever stands behind them.

* `isBareName` — the choice of data text, with `writtenChars_isBareName`;
* `isBareLiteral` — the choice of pattern text, with `writtenChars_isBareLiteral`.
-/

namespace SexprQuery

namespace Datum

mutual
/-- A datum as text, where `bare` tells the names that stand without quotes. -/
def writtenChars (bare : String → Bool) : Datum → List Char
  | .sym name => if bare name then name.toList else '#' :: quoteChars name.toList
  | .list _ slots => '(' :: writtenSlots bare slots
  | d => d.sourceChars
termination_by structural d => d

/-- The slots of a list and its closing parenthesis. -/
def writtenSlots (bare : String → Bool) : List Datum → List Char
  | [] => [')']
  | d :: ds => d.writtenChars bare ++ writtenMore bare ds
termination_by structural ds => ds

/-- The slots after the first. -/
def writtenMore (bare : String → Bool) : List Datum → List Char
  | [] => [')']
  | d :: ds => ' ' :: d.writtenChars bare ++ writtenMore bare ds
termination_by structural ds => ds
end

mutual
/-- The tokens of a datum as text. -/
def lexemes (bare : String → Bool) : Datum → List Lexeme
  | .str s => [.str s]
  | .sym name => [if bare name then .word name else .sym name]
  | .list _ slots => .opening :: (slotsLexemes bare slots ++ [.closing])
  | d => [.word (String.ofList d.sourceChars)]
termination_by structural d => d

/-- The tokens of a row of slots. -/
def slotsLexemes (bare : String → Bool) : List Datum → List Lexeme
  | [] => []
  | d :: ds => d.lexemes bare ++ slotsLexemes bare ds
termination_by structural ds => ds
end

mutual
/-- True if every floating-point number in a datum is finite. -/
def isFinite : Datum → Bool
  | .float (.finite _) => true
  | .float _ => false
  | .list _ slots => slotsFinite slots
  | _ => true
termination_by structural d => d

/-- The same for a row of slots. -/
def slotsFinite : List Datum → Bool
  | [] => true
  | d :: ds => d.isFinite && slotsFinite ds
termination_by structural ds => ds
end

theorem slotsFinite_eq_all (ds : List Datum) : slotsFinite ds = ds.all isFinite := by
  induction ds with
  | nil => rfl
  | cons d ds ih => rw [slotsFinite, List.all_cons, ih]

/-- True for the atoms that only a bare word spells. -/
def isWordAtom : Datum → Bool
  | .nil | .bool _ | .int _ | .float _ => true
  | _ => false

end Datum

/-- A name that pattern text can hold as a bare word. -/
def isBareLiteral (name : String) : Bool :=
  isBareName name && !(name = "_" || name = "___" || name.toList.head? = some '/')

open Datum

/-! ## The two choices -/

mutual
theorem Datum.writtenChars_isBareName (d : Datum) :
    d.writtenChars isBareName = d.sourceChars := by
  cases d with
  | list line slots =>
    rw [writtenChars, sourceChars, writtenSlots_isBareName]
  | _ => rfl
termination_by structural d

theorem writtenSlots_isBareName (ds : List Datum) :
    writtenSlots isBareName ds = sourceSlots ds := by
  cases ds with
  | nil => rfl
  | cons d ds =>
    rw [writtenSlots, sourceSlots, Datum.writtenChars_isBareName, writtenMore_isBareName]
termination_by structural ds

theorem writtenMore_isBareName (ds : List Datum) :
    writtenMore isBareName ds = sourceMore ds := by
  cases ds with
  | nil => rfl
  | cons d ds =>
    rw [writtenMore, sourceMore, Datum.writtenChars_isBareName, writtenMore_isBareName]
termination_by structural ds
end

theorem literalSymbolChars_eq (name : String) :
    literalSymbolChars name =
      if isBareLiteral name then name.toList else '#' :: quoteChars name.toList := by
  by_cases h : name = "_" ∨ name = "___" ∨ name.toList.head? = some '/'
  · rw [literalSymbolChars, if_pos h, if_neg]
    simp only [isBareLiteral, Bool.and_eq_true, Bool.not_eq_true', Bool.or_eq_false_iff,
      decide_eq_false_iff_not]
    rcases h with h | h | h <;> simp [h]
  · rw [literalSymbolChars, if_neg h, symbolChars]
    simp only [not_or] at h
    simp [isBareLiteral, h.1, h.2.1, h.2.2]

mutual
theorem Datum.writtenChars_isBareLiteral (d : Datum) :
    d.writtenChars isBareLiteral = d.literalChars := by
  cases d with
  | sym name =>
    rw [writtenChars, literalChars, literalSymbolChars_eq]
  | list line slots =>
    rw [writtenChars, literalChars, writtenSlots_isBareLiteral]
  | _ => rfl
termination_by structural d

theorem writtenSlots_isBareLiteral (ds : List Datum) :
    writtenSlots isBareLiteral ds = literalSlots ds := by
  cases ds with
  | nil => rfl
  | cons d ds =>
    rw [writtenSlots, literalSlots, Datum.writtenChars_isBareLiteral,
      writtenMore_isBareLiteral]
termination_by structural ds

theorem writtenMore_isBareLiteral (ds : List Datum) :
    writtenMore isBareLiteral ds = literalMore ds := by
  cases ds with
  | nil => rfl
  | cons d ds =>
    rw [writtenMore, literalMore, Datum.writtenChars_isBareLiteral,
      writtenMore_isBareLiteral]
termination_by structural ds
end

/-! ## Words -/

theorem isWord_of_wordChars {cs : List Char} (kind : TextKind) (hne : cs ≠ [])
    (h : ∀ c ∈ cs, isWordChar c = true) : IsWord kind cs where
  ne_nil := hne
  inside c hc := endsWord_of_isWordChar (h c hc)
  head _ hc := by
    have hmem : '/' ∈ cs := List.mem_of_mem_head? hc
    exact ne_slash_of_isWordChar (h '/' hmem) rfl

/-- The same as a check. -/
theorem isWord_of_all {cs : List Char} (kind : TextKind)
    (h : (!cs.isEmpty && cs.all isWordChar) = true) : IsWord kind cs := by
  rw [Bool.and_eq_true, Bool.not_eq_true', List.isEmpty_eq_false_iff] at h
  exact isWord_of_wordChars kind h.1 (List.all_eq_true.mp h.2)

theorem isBareName_spec {name : String} (h : isBareName name = true) :
    IsWord .data name.toList ∧ ofWord name = .sym name := by
  simp only [isBareName, Bool.and_eq_true, Bool.not_eq_true', List.any_eq_false] at h
  obtain ⟨⟨hne, hinside⟩, hsym⟩ := h
  refine ⟨⟨?_, ?_, fun hk => nomatch hk⟩, ofWord_eq_sym hsym⟩
  · intro hnil
    rw [String.toList_eq_nil_iff.mp hnil] at hne
    cases hne
  · exact fun c hc => Bool.eq_false_iff.mpr (hinside c hc)

theorem isBareLiteral_spec {name : String} (h : isBareLiteral name = true) :
    IsWord .pattern name.toList ∧ ofWord name = .sym name ∧ name ≠ "_" ∧ name ≠ "___" := by
  simp only [isBareLiteral, Bool.and_eq_true, Bool.not_eq_true', Bool.or_eq_false_iff,
    decide_eq_false_iff_not] at h
  obtain ⟨hbare, ⟨hwild, hremaining⟩, hslash⟩ := h
  obtain ⟨⟨hne, hinside, -⟩, hsym⟩ := isBareName_spec hbare
  exact ⟨⟨hne, hinside, fun _ => hslash⟩, hsym, hwild, hremaining⟩

theorem isWord_sourceChars (kind : TextKind) {d : Datum} (h : d.isWordAtom = true) :
    IsWord kind d.sourceChars := by
  cases d with
  | nil => exact isWord_of_all kind (by decide)
  | bool b => cases b <;> exact isWord_of_all kind (by decide)
  | int n =>
    exact isWord_of_wordChars kind (signedDigits_ne_nil n.toInt) fun c hc =>
      isWordChar_of_mem_signedDigits hc
  | float x =>
    exact isWord_of_wordChars kind (debugChars_ne_nil x) fun c hc => isWordChar_of_mem_debugChars hc
  | _ => cases h

/-- The word of a finite atom spells that atom. -/
theorem ofWord_sourceChars {d : Datum} (h : d.isWordAtom = true) (hfinite : d.isFinite = true) :
    ofWord (String.ofList d.sourceChars) = d := by
  cases d with
  | nil => rfl
  | bool b => cases b <;> rfl
  | int n => exact ofWord_of_number? (number?_signedDigits n)
  | float x =>
    cases x with
    | finite x => exact ofWord_of_number? (number?_debugChars x)
    | _ => cases hfinite
  | _ => cases h

/-! ## Scanning -/

/-- Tokens on one line. -/
def onLine (line : Nat) (xs : List Lexeme) : List Token := xs.map (⟨·, line⟩)

theorem onLine_append (line : Nat) (xs ys : List Lexeme) :
    onLine line (xs ++ ys) = onLine line xs ++ onLine line ys := List.map_append

theorem map_lexeme_onLine (line : Nat) (xs : List Lexeme) :
    (onLine line xs).map Token.lexeme = xs := by
  rw [onLine, List.map_map]
  exact List.map_id xs

theorem map_append_scan (ts us : List Token) (scanned : Except LexError (List Token)) :
    (scanned.map (us ++ ·)).map (ts ++ ·) = scanned.map (ts ++ us ++ ·) := by
  cases scanned with
  | error e => rfl
  | ok vs => exact congrArg Except.ok (List.append_assoc ts us vs).symm

theorem breaks_writtenMore (bare : String → Bool) (ds : List Datum) (rest : List Char) :
    Breaks (writtenMore bare ds ++ rest) := by
  cases ds with
  | nil => exact breaks_closing rest
  | cons d ds => exact breaks_space _

/-- Every name that stands without quotes is a word. -/
def IsWordChoice (kind : TextKind) (bare : String → Bool) : Prop :=
  ∀ name, bare name = true → IsWord kind name.toList

theorem isWordChoice_isBareName : IsWordChoice .data isBareName := fun _ h =>
  (isBareName_spec h).1

theorem isWordChoice_isBareLiteral : IsWordChoice .pattern isBareLiteral := fun _ h =>
  (isBareLiteral_spec h).1

variable {kind : TextKind} {bare : String → Bool}

mutual
/-- The scanner finds the tokens of a written datum. -/
theorem scanFrom_writtenChars (hbare : IsWordChoice kind bare) (line : Nat) (d : Datum)
    {rest : List Char} (hrest : Breaks rest) :
    scanFrom kind line (d.writtenChars bare ++ rest) =
      (scanFrom kind line rest).map (onLine line (d.lexemes bare) ++ ·) := by
  cases d with
  | str s =>
    have hscan := scanFrom_str kind line s.toList rest
    rw [String.ofList_toList] at hscan
    exact hscan
  | sym name =>
    rw [writtenChars, lexemes]
    split
    · next h =>
      have hscan := scanFrom_word (hbare name h) line hrest
      rw [String.ofList_toList] at hscan
      exact hscan
    · have hscan := scanFrom_sym kind line name.toList rest
      rw [String.ofList_toList] at hscan
      exact hscan
  | list l slots =>
    have hopen : bracket? '(' = some .opening := rfl
    rw [writtenChars, lexemes, List.cons_append, scanFrom_bracket hopen,
      scanFrom_writtenSlots hbare line slots]
    exact map_append_scan [⟨.opening, line⟩] _ _
  | _ =>
    exact scanFrom_word (isWord_sourceChars kind rfl) line hrest
termination_by structural d

theorem scanFrom_writtenSlots (hbare : IsWordChoice kind bare) (line : Nat) (ds : List Datum)
    (rest : List Char) :
    scanFrom kind line (writtenSlots bare ds ++ rest) =
      (scanFrom kind line rest).map (onLine line (slotsLexemes bare ds ++ [.closing]) ++ ·) := by
  cases ds with
  | nil => exact scanFrom_bracket rfl kind line rest
  | cons d ds =>
    rw [writtenSlots, slotsLexemes, List.append_assoc,
      scanFrom_writtenChars hbare line d (breaks_writtenMore bare ds rest),
      scanFrom_writtenMore hbare line ds, map_append_scan,
      List.append_assoc (d.lexemes bare), onLine_append line (d.lexemes bare)]
termination_by structural ds

theorem scanFrom_writtenMore (hbare : IsWordChoice kind bare) (line : Nat) (ds : List Datum)
    (rest : List Char) :
    scanFrom kind line (writtenMore bare ds ++ rest) =
      (scanFrom kind line rest).map (onLine line (slotsLexemes bare ds ++ [.closing]) ++ ·) := by
  cases ds with
  | nil => exact scanFrom_bracket rfl kind line rest
  | cons d ds =>
    rw [writtenMore, slotsLexemes, List.append_assoc, List.cons_append, scanFrom_space,
      scanFrom_writtenChars hbare line d (breaks_writtenMore bare ds rest),
      scanFrom_writtenMore hbare line ds, map_append_scan,
      List.append_assoc (d.lexemes bare), onLine_append line (d.lexemes bare)]
termination_by structural ds
end

end SexprQuery
