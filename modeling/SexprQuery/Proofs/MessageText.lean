import SexprQuery.Pattern.Printer
import SexprQuery.Proofs.NumberText
import SexprQuery.Token.Lexer

/-!
# Messages can be read in one way

A message is made of words, quoted texts, sources between slashes and calls, and an
argument of a call may be a chain of such terms with operators between them. That is all
a reader can see of it, so it is set down here apart from patterns and data: a `Phrase` is
what is read, and `Phrase.chars` is its text.

The text determines the phrase (`Phrase.chars_injective`). What a term is can be told from
its beginning (`Term.lead_chars`); where it ends is told by what follows it, and nothing
that follows a word may stand in one. So the induction carries what is behind a term along:
two terms with texts behind them that are the same altogether are the same, and so are
the texts behind them (`Term.chars_append_inj`).
-/

namespace SexprQuery.Message

open Pattern (Operator)

/-! ## What messages are made of -/

/-- A word of a message. -/
inductive Word where
  | wild
  | remaining
  | atom
  | nil
  | bool (value : Bool)
  | number (value : Int)
  | float (value : Binary64)
  /-- A symbol, behind a colon. -/
  | name (name : String)

/-- What a call is a call of; parentheses alone are a call of nothing. -/
inductive Head where
  | group
  | list
  | tagged
  | text
  | includes
  | within
  | not
  | sibling
  | any
  | all
  | shape
deriving DecidableEq

/-- All of them. -/
def heads : List Head :=
  [.group, .list, .tagged, .text, .includes, .within, .not, .sibling, .any, .all, .shape]

mutual
/-- What stands between operators. -/
inductive Term where
  | word (w : Word)
  | quoted (text : String)
  | slashed (source : String)
  | call (head : Head) (args : List Phrase)

/-- A term, or several with operators between them. -/
inductive Phrase where
  | single (t : Term)
  | chain (t : Term) (op : Operator) (rest : Phrase)
end

/-! ## Their text -/

def Word.chars : Word → List Char
  | .wild => ['_']
  | .remaining => ['_', '_', '_']
  | .atom => ['a', 't', 'o', 'm']
  | .nil => ['n', 'i', 'l']
  | .bool b => boolChars b
  | .number n => Decimal.signedDigits n
  | .float x => x.debugChars
  | .name s => ':' :: s.toList

def Head.chars : Head → List Char
  | .group => []
  | .list => ['s']
  | .tagged => ['t']
  | .text => ['m']
  | .includes => "include".toList
  | .within => "child".toList
  | .not => "not?".toList
  | .sibling => "sibling".toList
  | .any => "any".toList
  | .all => "all".toList
  | .shape => ['q']

mutual
def Term.chars : Term → List Char
  | .word w => w.chars
  | .quoted text => quoteChars text.toList
  | .slashed source => '/' :: source.toList ++ ['/']
  | .call head args => head.chars ++ '(' :: argsChars args
termination_by structural t => t

/-- The arguments of a call and its closing parenthesis. -/
def argsChars : List Phrase → List Char
  | [] => [')']
  | p :: ps => p.chars ++ moreChars ps
termination_by structural ps => ps

/-- The arguments after the first. -/
def moreChars : List Phrase → List Char
  | [] => [')']
  | p :: ps => ", ".toList ++ p.chars ++ moreChars ps
termination_by structural ps => ps

def Phrase.chars : Phrase → List Char
  | .single t => t.chars
  | .chain t op rest => t.chars ++ op.chars ++ rest.chars
termination_by structural p => p
end

/-! ## Legible messages -/

/-- A character that does not end a word. -/
def isClear (c : Char) : Bool := c != ' ' && c != '(' && c != ')' && c != ','

/-- True for the words whose end can be seen. Only a symbol may have any name. -/
def Word.isLegible : Word → Bool
  | .name s => s.toList.all isClear
  | _ => true

mutual
/-- True if the words in a term can be told from what is behind them, and a source
between slashes has no slash in it. -/
def Term.isLegible : Term → Bool
  | .word w => w.isLegible
  | .quoted _ => true
  | .slashed source => source.toList.all (· != '/')
  | .call _ args => argsLegible args
termination_by structural t => t

/-- The same for a row of arguments. -/
def argsLegible : List Phrase → Bool
  | [] => true
  | p :: ps => p.isLegible && argsLegible ps
termination_by structural ps => ps

/-- The same for a phrase. -/
def Phrase.isLegible : Phrase → Bool
  | .single t => t.isLegible
  | .chain t _ rest => t.isLegible && rest.isLegible
termination_by structural p => p
end

/-- What may follow a term: nothing, or what is behind it in a chain or a call. -/
def EndsTerm (r : List Char) : Prop := ∀ c ∈ r.head?, c = ' ' ∨ c = ')' ∨ c = ','

/-- What may follow a phrase. -/
def EndsPhrase (r : List Char) : Prop := ∀ c ∈ r.head?, c = ')' ∨ c = ','

theorem EndsPhrase.endsTerm {r : List Char} (h : EndsPhrase r) : EndsTerm r :=
  fun c hc => .inr (h c hc)

theorem endsTerm_operator (op : Operator) (r : List Char) : EndsTerm (op.chars ++ r) := by
  cases op <;> exact fun c hc => .inl (Option.some.inj hc).symm

theorem endsPhrase_moreChars (ps : List Phrase) (r : List Char) :
    EndsPhrase (moreChars ps ++ r) := by
  cases ps with
  | nil => exact fun c hc => .inl (Option.some.inj hc).symm
  | cons p ps =>
    rw [moreChars]
    exact fun c hc => .inr (Option.some.inj hc).symm

theorem EndsTerm.not_clear {r : List Char} (h : EndsTerm r) : ∀ c ∈ r.head?, isClear c = false := by
  intro c hc
  rcases h c hc with rfl | rfl | rfl <;> rfl

/-! ## Cutting a text -/

/-- Where a test fails for the first time, a text can be cut in one way only. -/
theorem append_inj_of_all {test : Char → Bool} {as bs r s : List Char}
    (has : ∀ c ∈ as, test c = true) (hbs : ∀ c ∈ bs, test c = true)
    (hr : ∀ c ∈ r.head?, test c = false) (hs : ∀ c ∈ s.head?, test c = false)
    (h : as ++ r = bs ++ s) : as = bs ∧ r = s := by
  induction as generalizing bs with
  | nil =>
    cases bs with
    | nil => exact ⟨rfl, h⟩
    | cons b bs =>
      rw [List.nil_append] at h
      have hfail := hr b (by rw [h]; rfl)
      rw [hbs b List.mem_cons_self] at hfail
      cases hfail
  | cons a as ih =>
    cases bs with
    | nil =>
      rw [List.nil_append] at h
      have hfail := hs a (by rw [← h]; rfl)
      rw [has a List.mem_cons_self] at hfail
      cases hfail
    | cons b bs =>
      obtain ⟨rfl, htail⟩ := List.cons.inj h
      obtain ⟨rfl, hrest⟩ := ih (fun c hc => has c (List.mem_cons_of_mem _ hc))
        (fun c hc => hbs c (List.mem_cons_of_mem _ hc)) htail
      exact ⟨rfl, hrest⟩

/-- A character between quotes stands for itself or is behind a backslash. -/
theorem quoteChar_cases (c : Char) :
    (quoteChar c = [c] ∧ c ≠ '"' ∧ c ≠ '\\') ∨
      ∃ e, quoteChar c = ['\\', e] ∧ Scanner.unescape e = c := by
  unfold quoteChar
  split
  case h_6 hquote hslash _ _ _ => exact .inl ⟨rfl, hquote, hslash⟩
  all_goals exact .inr ⟨_, rfl, rfl⟩

theorem quoteChar_append_inj {c d : Char} {r s : List Char}
    (h : quoteChar c ++ r = quoteChar d ++ s) : c = d ∧ r = s := by
  rcases quoteChar_cases c with ⟨hc, -, hslash⟩ | ⟨e, hc, rfl⟩ <;>
    rcases quoteChar_cases d with ⟨hd, -, hslash'⟩ | ⟨e', hd, rfl⟩ <;>
    rw [hc, hd] at h
  · exact List.cons.inj h
  · exact absurd (List.cons.inj h).1 hslash
  · exact absurd (List.cons.inj h).1.symm hslash'
  · obtain ⟨rfl, hrest⟩ := List.cons.inj (List.cons.inj h).2
    exact ⟨rfl, hrest⟩

/-- No character is written as the quote that ends a text. -/
theorem quote_ne_quoteChar (c : Char) (r s : List Char) : '"' :: r ≠ quoteChar c ++ s := by
  intro h
  rcases quoteChar_cases c with ⟨hc, hquote, -⟩ | ⟨e, hc, -⟩ <;> rw [hc] at h
  · exact hquote (List.cons.inj h).1.symm
  · exact absurd (List.cons.inj h).1 (by decide)

/-- A text between quotes ends where its closing quote stands. -/
theorem quoteChars_append_inj {as bs r s : List Char}
    (h : quoteChars as ++ r = quoteChars bs ++ s) : as = bs ∧ r = s := by
  have hinner : as.flatMap quoteChar ++ '"' :: r = bs.flatMap quoteChar ++ '"' :: s := by
    simpa [quoteChars] using h
  clear h
  induction as generalizing bs with
  | nil =>
    cases bs with
    | nil => exact ⟨rfl, (List.cons.inj hinner).2⟩
    | cons b bs =>
      rw [List.flatMap_cons, List.append_assoc] at hinner
      exact absurd hinner (quote_ne_quoteChar b _ _)
  | cons a as ih =>
    cases bs with
    | nil =>
      rw [List.flatMap_cons, List.append_assoc] at hinner
      exact absurd hinner.symm (quote_ne_quoteChar a _ _)
    | cons b bs =>
      rw [List.flatMap_cons, List.flatMap_cons, List.append_assoc, List.append_assoc] at hinner
      obtain ⟨rfl, hrest⟩ := quoteChar_append_inj hinner
      obtain ⟨rfl, hend⟩ := ih hrest
      exact ⟨rfl, hend⟩

/-! ## Words -/

/-- The words that are written the same in every message. -/
def keywords : List Word := [.wild, .remaining, .atom, .nil, .bool true, .bool false]

/-- Read a word that is no name. -/
def Word.ofUnnamed (cs : List Char) : Word :=
  match keywords.find? fun w => w.chars == cs with
  | some w => w
  | none =>
    match Decimal.integer? cs with
    | some n => .number n
    | none => .float ((Binary64.parse? cs).getD .nan)

/-- Read a word. -/
def Word.ofChars : List Char → Word
  | ':' :: cs => .name (String.ofList cs)
  | cs => ofUnnamed cs

/-- A character that numerals start with. -/
def StartsNumeral (c : Char) : Prop := c = '-' ∨ Decimal.isDigit c = true

theorem exists_cons_signedDigits (n : Int) :
    ∃ c cs, Decimal.signedDigits n = c :: cs ∧ StartsNumeral c := by
  obtain ⟨c, cs, hcs, hc⟩ := Decimal.exists_cons_digits n.natAbs
  rw [Decimal.signedDigits, hcs]
  split
  · exact ⟨'-', c :: cs, rfl, .inl rfl⟩
  · exact ⟨c, cs, rfl, .inr hc⟩

theorem exists_cons_debugChars (x : Finite64) :
    ∃ c cs, Binary64.debugChars (.finite x) = c :: cs ∧ StartsNumeral c := by
  obtain ⟨body, hbody, ⟨c, cs, hcs, hc⟩, -⟩ := Binary64.exists_body x
  rw [hbody, hcs]
  cases x.negative with
  | true => exact ⟨'-', c :: cs, rfl, .inl rfl⟩
  | false => exact ⟨c, cs, rfl, .inr hc⟩

theorem StartsNumeral.ne {c d : Char} (hc : StartsNumeral c) (hsign : d ≠ '-')
    (hdigit : Decimal.isDigit d = false) : c ≠ d := by
  rintro rfl
  rcases hc with rfl | hc
  · exact hsign rfl
  · rw [hdigit] at hc
    cases hc

/-- A text that starts like a numeral is no name and no keyword. -/
theorem Word.ofChars_of_startsNumeral {c : Char} (hc : StartsNumeral c) (cs : List Char) :
    ofChars (c :: cs) =
      match Decimal.integer? (c :: cs) with
      | some n => .number n
      | none => .float ((Binary64.parse? (c :: cs)).getD .nan) := by
  have hkeyword : keywords.find? (fun w => w.chars == c :: cs) = none := by
    rw [List.find?_eq_none]
    intro w hw heq
    have hchars : w.chars = c :: cs := eq_of_beq heq
    simp only [keywords, List.mem_cons, List.not_mem_nil, or_false] at hw
    rcases hw with rfl | rfl | rfl | rfl | rfl | rfl <;>
      exact hc.ne (by decide) (by decide) (List.cons.inj hchars).1.symm
  rw [ofChars, ofUnnamed, hkeyword]
  rintro cs' ⟨⟩
  exact hc.ne (by decide) (by decide) rfl

/-- A written word reads back. -/
theorem Word.ofChars_chars (w : Word) : ofChars w.chars = w := by
  cases w with
  | number n =>
    obtain ⟨c, cs, hcs, hc⟩ := exists_cons_signedDigits n
    rw [chars, hcs, ofChars_of_startsNumeral hc, ← hcs, Decimal.integer?_signedDigits]
  | float x =>
    cases x with
    | finite x =>
      obtain ⟨c, cs, hcs, hc⟩ := exists_cons_debugChars x
      rw [chars, hcs, ofChars_of_startsNumeral hc, ← hcs, Binary64.integer?_debugChars,
        Binary64.parse?_debugChars]
      rfl
    | nan => rfl
    | infinite negative => cases negative <;> rfl
  | name s => exact congrArg Word.name String.ofList_toList
  | bool b => cases b <;> rfl
  | _ => rfl

theorem Word.chars_injective {w v : Word} (h : w.chars = v.chars) : w = v := by
  rw [← ofChars_chars w, ← ofChars_chars v, h]

/-! ## The characters of words -/

theorem isClear_of_isDigit {c : Char} (h : Decimal.isDigit c = true) : isClear c = true := by
  have hne : ∀ d, Decimal.isDigit d = false → (c != d) = true := by
    intro d hd
    refine bne_iff_ne.mpr ?_
    rintro rfl
    rw [h] at hd
    cases hd
  rw [isClear, hne ' ' rfl, hne '(' rfl, hne ')' rfl, hne ',' rfl]
  rfl

/-- Nothing in a legible word could end it. -/
theorem Word.isClear_of_mem {w : Word} (h : w.isLegible = true) :
    ∀ c ∈ w.chars, isClear c = true := by
  intro c hc
  cases w with
  | number n => exact Decimal.forall_mem_signedDigits (fun _ => isClear_of_isDigit) rfl n c hc
  | float x =>
    exact Binary64.forall_mem_debugChars (fun _ => isClear_of_isDigit) (by decide) (by decide)
      (by decide) x c hc
  | name s =>
    rcases List.mem_cons.mp hc with rfl | hc
    · rfl
    · exact List.all_eq_true.mp h c hc
  | bool b =>
    have hall : (Word.bool b).chars.all isClear = true := by cases b <;> decide
    exact List.all_eq_true.mp hall c hc
  | wild =>
    rw [List.mem_singleton.mp hc]
    rfl
  | _ =>
    simp only [chars, List.mem_cons, List.not_mem_nil, or_false] at hc
    rcases hc with rfl | rfl | rfl | rfl <;> rfl

theorem Head.isClear_of_mem {head : Head} : ∀ c ∈ head.chars, isClear c = true := by
  have hall : head.chars.all isClear = true := by cases head <;> decide
  exact List.all_eq_true.mp hall

theorem Head.chars_injective {head head' : Head} (h : head.chars = head'.chars) :
    head = head' := by
  have hall : ∀ head ∈ heads, ∀ head' ∈ heads, Head.chars head = head'.chars → head = head' := by
    decide
  have hmem : ∀ head : Head, head ∈ heads := fun head => by cases head <;> decide
  exact hall head (hmem head) head' (hmem head') h

theorem Operator.chars_append_inj {op op' : Operator} {r s : List Char}
    (h : op.chars ++ r = op'.chars ++ s) : op = op' ∧ r = s := by
  cases op <;> cases op' <;> simp_all [Operator.chars]

/-! ## How terms begin -/

/-- The four kinds of terms. -/
inductive Kind where
  | word
  | quoted
  | slashed
  | call

def Term.kind : Term → Kind
  | .word _ => .word
  | .quoted _ => .quoted
  | .slashed _ => .slashed
  | .call _ _ => .call

/-- What a text starts with. A word and the head of a call are told apart by what stands
behind them. -/
def lead : List Char → Kind
  | '"' :: _ => .quoted
  | '/' :: _ => .slashed
  | cs => if (cs.dropWhile isClear).head? = some '(' then .call else .word

/-- The first character of a term: only a quote or a slash opens a text that may hold
anything, and no term starts with a closing parenthesis. -/
theorem Word.exists_cons (w : Word) :
    ∃ c cs, w.chars = c :: cs ∧ c ≠ '"' ∧ c ≠ '/' ∧ c ≠ ')' := by
  have hnumeral : ∀ {c}, StartsNumeral c → c ≠ '"' ∧ c ≠ '/' ∧ c ≠ ')' := fun hc =>
    ⟨hc.ne (by decide) rfl, hc.ne (by decide) rfl, hc.ne (by decide) rfl⟩
  cases w with
  | number n =>
    obtain ⟨c, cs, hcs, hc⟩ := exists_cons_signedDigits n
    exact ⟨c, cs, hcs, hnumeral hc⟩
  | float x =>
    cases x with
    | finite x =>
      obtain ⟨c, cs, hcs, hc⟩ := exists_cons_debugChars x
      exact ⟨c, cs, hcs, hnumeral hc⟩
    | nan => exact ⟨_, _, rfl, by decide⟩
    | infinite negative => cases negative <;> exact ⟨_, _, rfl, by decide⟩
  | bool b => cases b <;> exact ⟨_, _, rfl, by decide⟩
  | _ => exact ⟨_, _, rfl, by decide⟩

theorem Head.exists_cons (head : Head) (r : List Char) :
    ∃ c cs, head.chars ++ '(' :: r = c :: cs ∧ c ≠ '"' ∧ c ≠ '/' ∧ c ≠ ')' := by
  cases head <;> exact ⟨_, _, rfl, by decide⟩

theorem Term.exists_cons (t : Term) : ∃ c cs, t.chars = c :: cs ∧ c ≠ ')' := by
  cases t with
  | word w =>
    obtain ⟨c, cs, hcs, -, -, hc⟩ := w.exists_cons
    exact ⟨c, cs, hcs, hc⟩
  | quoted text => exact ⟨'"', _, rfl, by decide⟩
  | slashed source => exact ⟨'/', _, rfl, by decide⟩
  | call head args =>
    obtain ⟨c, cs, hcs, -, -, hc⟩ := head.exists_cons (argsChars args)
    exact ⟨c, cs, hcs, hc⟩

theorem Phrase.exists_cons (p : Phrase) : ∃ c cs, p.chars = c :: cs ∧ c ≠ ')' := by
  cases p with
  | single t => exact t.exists_cons
  | chain t op rest =>
    obtain ⟨c, cs, hcs, hc⟩ := t.exists_cons
    refine ⟨c, cs ++ op.chars ++ rest.chars, ?_, hc⟩
    rw [chars, hcs]
    rfl

/-- A text that starts with clear characters, and neither with a quote nor a slash, is told
by what stands behind them. -/
theorem lead_append {as r : List Char} (has : ∀ c ∈ as, isClear c = true)
    (hr : ∀ c ∈ r.head?, isClear c = false)
    (hcons : ∃ c cs, as ++ r = c :: cs ∧ c ≠ '"' ∧ c ≠ '/') :
    lead (as ++ r) = if r.head? = some '(' then .call else .word := by
  have hdrop : (as ++ r).dropWhile isClear = r := by
    rw [List.dropWhile_append_of_pos has]
    cases r with
    | nil => rfl
    | cons c r => exact List.dropWhile_cons_of_neg (by rw [hr c rfl]; exact Bool.false_ne_true)
  obtain ⟨c, cs, hcs, hquote, hslash⟩ := hcons
  unfold lead
  split
  · next h => exact absurd (List.cons.inj (hcs.symm.trans h)).1 hquote
  · next h => exact absurd (List.cons.inj (hcs.symm.trans h)).1 hslash
  · rw [hdrop]

/-- **How a term begins.** Its kind shows before its end is reached. -/
theorem Term.lead_chars {t : Term} (ht : t.isLegible = true) {r : List Char} (hr : EndsTerm r) :
    lead (t.chars ++ r) = t.kind := by
  cases t with
  | quoted text => rfl
  | slashed source => rfl
  | word w =>
    have hnone : r.head? ≠ some '(' := by
      intro h
      rcases hr _ h with h | h | h <;> exact absurd h (by decide)
    obtain ⟨c, cs, hcs, hquote, hslash, -⟩ := w.exists_cons
    rw [chars, lead_append (Word.isClear_of_mem ht) hr.not_clear
      ⟨c, cs ++ r, by rw [hcs]; rfl, hquote, hslash⟩, if_neg hnone]
    rfl
  | call head args =>
    obtain ⟨c, cs, hcs, hquote, hslash, -⟩ := head.exists_cons (argsChars args ++ r)
    rw [chars, List.append_assoc, List.cons_append,
      lead_append Head.isClear_of_mem (fun c hc => by rw [← Option.some.inj hc]; rfl)
        ⟨c, cs, hcs, hquote, hslash⟩]
    rfl

/-! ## Unique reading -/

mutual
/-- Two legible terms with something behind them that have the same text are the same,
and so is what stands behind them. -/
theorem Term.chars_append_inj (t u : Term) (ht : t.isLegible = true) (hu : u.isLegible = true)
    {r s : List Char} (hr : EndsTerm r) (hs : EndsTerm s) (h : t.chars ++ r = u.chars ++ s) :
    t = u ∧ r = s := by
  have hkind : t.kind = u.kind := by rw [← Term.lead_chars ht hr, ← Term.lead_chars hu hs, h]
  cases t with
  | word w =>
    cases u with
    | word v =>
      -- no character of a word could follow it, so both words end where that changes
      obtain ⟨hchars, hrest⟩ := append_inj_of_all (Word.isClear_of_mem ht) (Word.isClear_of_mem hu)
        hr.not_clear hs.not_clear h
      exact ⟨congrArg Term.word (Word.chars_injective hchars), hrest⟩
    | _ => cases hkind
  | quoted text =>
    cases u with
    | quoted text' =>
      obtain ⟨htext, hrest⟩ := quoteChars_append_inj h
      exact ⟨congrArg Term.quoted (String.toList_inj.mp htext), hrest⟩
    | _ => cases hkind
  | slashed source =>
    cases u with
    | slashed source' =>
      -- the first slash behind the opening one closes the source
      have hinner : source.toList ++ '/' :: r = source'.toList ++ '/' :: s := by
        simpa [Term.chars] using h
      obtain ⟨hsource, hrest⟩ := append_inj_of_all (List.all_eq_true.mp ht)
        (List.all_eq_true.mp hu) (fun c hc => by rw [← Option.some.inj hc]; rfl)
        (fun c hc => by rw [← Option.some.inj hc]; rfl) hinner
      exact ⟨congrArg Term.slashed (String.toList_inj.mp hsource), (List.cons.inj hrest).2⟩
    | _ => cases hkind
  | call head args =>
    cases u with
    | call head' args' =>
      -- heads end at the parenthesis, and the arguments end themselves
      rw [Term.chars, Term.chars, List.append_assoc, List.append_assoc] at h
      obtain ⟨hhead, hargs⟩ := append_inj_of_all Head.isClear_of_mem Head.isClear_of_mem
        (fun c hc => by rw [← Option.some.inj hc]; rfl)
        (fun c hc => by rw [← Option.some.inj hc]; rfl) h
      obtain ⟨rfl, hrest⟩ := argsChars_append_inj args args' ht hu (List.cons.inj hargs).2
      obtain rfl := Head.chars_injective hhead
      exact ⟨rfl, hrest⟩
    | _ => cases hkind
termination_by structural t

theorem argsChars_append_inj (ps qs : List Phrase) (hp : argsLegible ps = true)
    (hq : argsLegible qs = true) {r s : List Char} (h : argsChars ps ++ r = argsChars qs ++ s) :
    ps = qs ∧ r = s := by
  cases ps with
  | nil =>
    cases qs with
    | nil => exact ⟨rfl, (List.cons.inj h).2⟩
    | cons q qs =>
      -- no phrase starts with the parenthesis that stands where there are no arguments
      obtain ⟨c, cs, hcs, hc⟩ := q.exists_cons
      rw [argsChars, argsChars, hcs] at h
      exact absurd (List.cons.inj h).1.symm hc
  | cons p ps =>
    cases qs with
    | nil =>
      obtain ⟨c, cs, hcs, hc⟩ := p.exists_cons
      rw [argsChars, argsChars, hcs] at h
      exact absurd (List.cons.inj h).1 hc
    | cons q qs =>
      rw [argsLegible, Bool.and_eq_true] at hp hq
      rw [argsChars, argsChars, List.append_assoc, List.append_assoc] at h
      obtain ⟨rfl, hmore⟩ := Phrase.chars_append_inj p q hp.1 hq.1 (endsPhrase_moreChars ps r)
        (endsPhrase_moreChars qs s) h
      obtain ⟨rfl, hrest⟩ := moreChars_append_inj ps qs hp.2 hq.2 hmore
      exact ⟨rfl, hrest⟩
termination_by structural ps

theorem moreChars_append_inj (ps qs : List Phrase) (hp : argsLegible ps = true)
    (hq : argsLegible qs = true) {r s : List Char} (h : moreChars ps ++ r = moreChars qs ++ s) :
    ps = qs ∧ r = s := by
  cases ps with
  | nil =>
    cases qs with
    | nil => exact ⟨rfl, (List.cons.inj h).2⟩
    | cons q qs => exact absurd (List.cons.inj h).1 (by decide)
  | cons p ps =>
    cases qs with
    | nil => exact absurd (List.cons.inj h).1 (by decide)
    | cons q qs =>
      rw [argsLegible, Bool.and_eq_true] at hp hq
      rw [moreChars, moreChars, List.append_assoc, List.append_assoc, List.append_assoc,
        List.append_assoc] at h
      obtain ⟨rfl, hmore⟩ := Phrase.chars_append_inj p q hp.1 hq.1 (endsPhrase_moreChars ps r)
        (endsPhrase_moreChars qs s) (List.append_cancel_left h)
      obtain ⟨rfl, hrest⟩ := moreChars_append_inj ps qs hp.2 hq.2 hmore
      exact ⟨rfl, hrest⟩
termination_by structural ps

/-- The same for phrases, which end where no operator follows. -/
theorem Phrase.chars_append_inj (p q : Phrase) (hp : p.isLegible = true)
    (hq : q.isLegible = true) {r s : List Char} (hr : EndsPhrase r) (hs : EndsPhrase s)
    (h : p.chars ++ r = q.chars ++ s) : p = q ∧ r = s := by
  -- an operator goes on where a phrase could end, so only one of the two can be there
  have hnone : ∀ {r : List Char}, EndsPhrase r → ∀ (op : Operator) (cs : List Char),
      r ≠ op.chars ++ cs := by
    rintro r hr op cs rfl
    cases op <;> rcases hr ' ' rfl with h | h <;> cases h
  cases p with
  | single t =>
    cases q with
    | single u =>
      obtain ⟨rfl, hrest⟩ := Term.chars_append_inj t u hp hq hr.endsTerm hs.endsTerm h
      exact ⟨rfl, hrest⟩
    | chain u op rest =>
      rw [Phrase.isLegible, Bool.and_eq_true] at hq
      rw [Phrase.chars, Phrase.chars, List.append_assoc, List.append_assoc] at h
      obtain ⟨-, hrest⟩ := Term.chars_append_inj t u hp hq.1 hr.endsTerm
        (endsTerm_operator op _) h
      exact absurd hrest (hnone hr op _)
  | chain t op rest =>
    rw [Phrase.isLegible, Bool.and_eq_true] at hp
    rw [Phrase.chars, List.append_assoc, List.append_assoc] at h
    cases q with
    | single u =>
      obtain ⟨-, hrest⟩ := Term.chars_append_inj t u hp.1 hq (endsTerm_operator op _)
        hs.endsTerm h
      exact absurd hrest.symm (hnone hs op _)
    | chain u op' rest' =>
      rw [Phrase.isLegible, Bool.and_eq_true] at hq
      rw [Phrase.chars, List.append_assoc, List.append_assoc] at h
      obtain ⟨rfl, hrest⟩ := Term.chars_append_inj t u hp.1 hq.1 (endsTerm_operator op _)
        (endsTerm_operator op' _) h
      obtain ⟨rfl, hbehind⟩ := Operator.chars_append_inj hrest
      obtain ⟨rfl, hend⟩ := Phrase.chars_append_inj rest rest' hp.2 hq.2 hr hs hbehind
      exact ⟨rfl, hend⟩
termination_by structural p
end

/-- **Unique reading.** A legible message can be read in one way. -/
theorem Phrase.chars_injective {p q : Phrase} (hp : p.isLegible = true) (hq : q.isLegible = true)
    (h : p.chars = q.chars) : p = q := by
  have hend : EndsPhrase [] := fun c hc => nomatch hc
  exact (Phrase.chars_append_inj p q hp hq hend hend (by rw [h])).1

end SexprQuery.Message
