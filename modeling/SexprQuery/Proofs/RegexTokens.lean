import SexprQuery.Proofs.NextToken
import SexprQuery.Proofs.Rereading

/-!
# Regular expressions between slashes

The source of a regular expression is written between slashes, with a backslash before each
slash that has none. The token that is read there holds the source again, but for the
backslashes that escaped a slash in the source itself: they are gone, and writing the text of
the token puts them back (`next?_escapeSlashes`).

Which backslashes are lost is said without reading or writing. In a run of backslashes every
second one is escaped, so what stands behind a run is escaped if the run is odd
(`endsInEscape`). Lost are the unescaped backslashes directly before a slash (`bareSlashes`).
-/

namespace SexprQuery

open Scanner
open Regex (Unescapes)

/-! ## Escaped places -/

/-- The number of backslashes that a text ends in. -/
def backslashesAtEnd (cs : List Char) : Nat := (cs.reverse.takeWhile (· = '\\')).length

/-- True if a text ends in a backslash that is not escaped, so that it escapes what stands
behind the text. -/
def endsInEscape (cs : List Char) : Bool := backslashesAtEnd cs % 2 = 1

/-- True if an unescaped backslash stands at the given place, directly before a slash. -/
def escapesSlashAt (cs : List Char) (i : Nat) : Bool :=
  cs[i]? = some '\\' && cs[i + 1]? = some '/' && !endsInEscape (cs.take i)

/-- What is kept of a text behind another one where each slash that is directly preceded by an
unescaped backslash loses that backslash. -/
def bareSlashesBehind (before cs : List Char) : List Char :=
  ((cs.zipIdx before.length).filter fun p => !escapesSlashAt (before ++ cs) p.2).map Prod.fst

/-- A text where each slash that is directly preceded by an unescaped backslash has lost that
backslash. -/
def bareSlashes (cs : List Char) : List Char :=
  (cs.zipIdx.filter fun p => !escapesSlashAt cs p.2).map Prod.fst

theorem bareSlashes_eq (cs : List Char) : bareSlashes cs = bareSlashesBehind [] cs := rfl

theorem backslashesAtEnd_append_singleton (cs : List Char) (c : Char) :
    backslashesAtEnd (cs ++ [c]) = if c = '\\' then backslashesAtEnd cs + 1 else 0 := by
  by_cases hc : c = '\\' <;> simp [backslashesAtEnd, hc]

theorem endsInEscape_append_singleton (cs : List Char) (c : Char) :
    endsInEscape (cs ++ [c]) = (c = '\\' && !endsInEscape cs) := by
  rw [endsInEscape, backslashesAtEnd_append_singleton, endsInEscape]
  by_cases hc : c = '\\'
  · rw [if_pos hc, hc, decide_eq_true rfl, Bool.true_and, ← decide_not, decide_eq_decide]
    omega
  · simp [hc]

/-- Telling the escaped characters one by one is telling them by the runs of backslashes. -/
theorem escapedAfter_endsInEscape (before cs : List Char) :
    escapedAfter (endsInEscape before) cs = endsInEscape (before ++ cs) := by
  induction cs generalizing before with
  | nil => rw [List.append_nil]; rfl
  | cons c cs ih =>
    have hrest := ih (before ++ [c])
    rw [endsInEscape_append_singleton, List.append_assoc] at hrest
    exact hrest

theorem escapesSlashAt_length (before : List Char) (c : Char) (cs : List Char) :
    escapesSlashAt (before ++ c :: cs) before.length =
      (c = '\\' && cs.head? = some '/' && !endsInEscape before) := by
  cases cs <;> simp [escapesSlashAt]

theorem bareSlashesBehind_cons (before : List Char) (c : Char) (cs : List Char) :
    bareSlashesBehind before (c :: cs) =
      (if c = '\\' && cs.head? = some '/' && !endsInEscape before then [] else [c]) ++
        bareSlashesBehind (before ++ [c]) cs := by
  rw [bareSlashesBehind, bareSlashesBehind, List.zipIdx_cons, List.filter_cons,
    escapesSlashAt_length, List.length_append, List.append_assoc]
  cases c = '\\' && cs.head? = some '/' && !endsInEscape before <;> rfl

/-- A text keeps all its backslashes just if none of them escapes a slash. -/
theorem bareSlashes_eq_self_iff (cs : List Char) :
    bareSlashes cs = cs ↔ ∀ i, escapesSlashAt cs i = false := by
  constructor
  · intro h i
    have hlength := congrArg List.length h
    rw [bareSlashes, List.length_map, ← List.length_zipIdx (l := cs) (i := 0),
      List.length_filter_eq_length_iff] at hlength
    cases hi : escapesSlashAt cs i with
    | false => rfl
    | true =>
      have hget : cs[i]? = some '\\' := by
        simp only [escapesSlashAt, Bool.and_eq_true, decide_eq_true_eq] at hi
        exact hi.1.1
      have hkept := hlength ('\\', i) (List.mem_zipIdx_iff_getElem?.mpr hget)
      rw [hi] at hkept
      cases hkept
  · intro h
    rw [bareSlashes, List.filter_eq_self.mpr (by simp [h]), List.zipIdx_map_fst]

/-! ## Sources pair by pair -/

/-- What `Unescapes` does to a source is to bare its slashes. -/
theorem bareSlashesBehind_of_unescapes {cs ds : List Char} (h : Unescapes cs ds)
    (before : List Char) (hbefore : endsInEscape before = false) :
    bareSlashesBehind before cs = ds := by
  induction h generalizing before with
  | nil => rfl
  | @slash cs ds h ih =>
    have hrest := ih (before ++ ['\\'] ++ ['/']) (endsInEscape_append_singleton _ _)
    rw [bareSlashesBehind_cons, bareSlashesBehind_cons, hrest, hbefore]
    rfl
  | @escape c hc cs ds h ih =>
    have hback : endsInEscape (before ++ ['\\']) = true := by
      rw [endsInEscape_append_singleton, hbefore]
      rfl
    have hrest := ih (before ++ ['\\'] ++ [c]) (by rw [endsInEscape_append_singleton, hback]; simp)
    rw [bareSlashesBehind_cons, bareSlashesBehind_cons, hrest, hback]
    simp [hc]
  | @plain c hc cs ds h ih =>
    have hrest := ih (before ++ [c]) (by rw [endsInEscape_append_singleton]; simp [hc])
    rw [bareSlashesBehind_cons, hrest]
    simp [hc]

theorem escapedAfter_of_endsInEscape {cs : List Char} (h : endsInEscape cs = false) :
    escapedAfter false cs = false := (escapedAfter_endsInEscape [] cs).trans h

/-- What the scanner keeps of a source is told by the runs of backslashes. -/
theorem regexText_eq_bareSlashes {cs : List Char} (h : endsInEscape cs = false) :
    regexText false cs = bareSlashes cs := by
  have hunescapes := Pattern.unescapes_regexText false cs (escapedAfter_of_endsInEscape h)
  rw [bareSlashes_eq]
  exact (bareSlashesBehind_of_unescapes hunescapes [] rfl).symm

theorem unescapes_bareSlashes {cs : List Char} (h : endsInEscape cs = false) :
    Unescapes cs (bareSlashes cs) := by
  have hunescapes := Pattern.unescapes_regexText false cs (escapedAfter_of_endsInEscape h)
  rw [regexText_eq_bareSlashes h] at hunescapes
  exact hunescapes

/-! ## Reading what was written -/

theorem lineBehind_add_count (line : Nat) (c : Char) (cs : List Char) :
    Unread.lineBehind line c + cs.count '\n' = line + (c :: cs).count '\n' :=
  line_add_count line c cs

theorem lineBehind_add_count_pair (line : Nat) (c : Char) (cs : List Char) :
    Unread.lineBehind line c + cs.count '\n' = line + ('\\' :: c :: cs).count '\n' := by
  rw [lineBehind_add_count, List.count_cons_of_ne (a := '\n') (b := '\\') (by decide)]

theorem regex?_pair (line : Nat) (c : Char) (cs : List Char) :
    Unread.regex? line ('\\' :: c :: cs) =
      Unread.inFront (if c = '/' then ['/'] else ['\\', c])
        (Unread.regex? (Unread.lineBehind line c) cs) :=
  Unread.literal?_pair (by decide) _ line c cs

/-- A backslash and the character behind it are written as they are. -/
theorem escapeSlashes_pair (c : Char) (cs : List Char) :
    escapeSlashes false ('\\' :: c :: cs) = '\\' :: c :: escapeSlashes false cs := by
  simp [escapeSlashes]

theorem escapeSlashes_plain {c : Char} (hslash : c ≠ '/') (hback : c ≠ '\\') (cs : List Char) :
    escapeSlashes false (c :: cs) = c :: escapeSlashes false cs := by
  simp [escapeSlashes, hslash, hback]

/-- A written source is read pair by pair, whatever stands behind it: each slash is one half of
a pair, so none of them ends the literal. -/
theorem regex?_escapeSlashes {cs ds : List Char} (h : Unescapes cs ds) (line : Nat)
    (tail : List Char) :
    Unread.regex? line (escapeSlashes false cs ++ tail) =
      Unread.inFront ds (Unread.regex? (line + cs.count '\n') tail) := by
  induction h generalizing line with
  | nil => rw [Unread.inFront_nil]; rfl
  | @slash cs ds h ih =>
    rw [escapeSlashes_pair, List.cons_append, List.cons_append, regex?_pair, if_pos rfl, ih,
      lineBehind_add_count_pair, ← Unread.inFront_append]
    rfl
  | @escape c hc cs ds h ih =>
    rw [escapeSlashes_pair, List.cons_append, List.cons_append, regex?_pair, if_neg hc, ih,
      lineBehind_add_count_pair, ← Unread.inFront_append]
    rfl
  | @plain c hback cs ds h ih =>
    by_cases hslash : c = '/'
    · subst hslash
      have hwritten : escapeSlashes false ('/' :: cs) = '\\' :: '/' :: escapeSlashes false cs := rfl
      rw [hwritten, List.cons_append, List.cons_append, regex?_pair, if_pos rfl, ih,
        lineBehind_add_count, ← Unread.inFront_append]
      rfl
    · rw [escapeSlashes_plain hslash hback, List.cons_append, Unread.regex?,
        Unread.literal?_plain hslash hback, ← Unread.regex?, ih, lineBehind_add_count,
        ← Unread.inFront_append]
      rfl

theorem escapeSlashes_append (escaped : Bool) (cs more : List Char) :
    escapeSlashes escaped (cs ++ more) =
      escapeSlashes escaped cs ++ escapeSlashes (escapedAfter escaped cs) more := by
  induction cs generalizing escaped with
  | nil => rfl
  | cons c cs ih =>
    rw [List.cons_append, escapeSlashes, escapeSlashes]
    split
    · next hslash =>
      obtain ⟨rfl, rfl⟩ := hslash
      rw [ih]
      rfl
    · rw [ih]
      rfl

/-- A source that ends in an unescaped backslash escapes the closing slash. -/
theorem next?_escapeSlashes_open {cs : List Char} (h : endsInEscape cs = true) (line : Nat) :
    Unread.next? .pattern ⟨line, '/' :: escapeSlashes false cs ++ ['/']⟩ =
      .error (.unterminatedRegex line) := by
  obtain ⟨before, rfl⟩ : ∃ before, cs = before ++ ['\\'] := by
    rcases List.eq_nil_or_concat cs with rfl | ⟨before, c, rfl⟩
    · cases h
    · rw [List.concat_eq_append, endsInEscape_append_singleton, Bool.and_eq_true] at h
      exact ⟨before, by rw [List.concat_eq_append, of_decide_eq_true h.1]⟩
  have hbefore : endsInEscape before = false := by
    rw [endsInEscape_append_singleton] at h
    simpa using h
  have hwritten : escapeSlashes false (before ++ ['\\']) = escapeSlashes false before ++ ['\\'] := by
    rw [escapeSlashes_append, escapedAfter_of_endsInEscape hbefore]
    rfl
  -- the backslash that was not escaped takes the closing slash in, and nothing is left
  have hread := regex?_escapeSlashes (unescapes_bareSlashes hbefore) line ['\\', '/']
  have hnone (l : Nat) : Unread.regex? l ['\\', '/'] = none := regex?_pair l '/' []
  rw [hnone, Unread.inFront_none] at hread
  rw [hwritten, List.cons_append, Unread.next?_slash, List.append_assoc, List.singleton_append,
    hread]
  rfl

/-- **Between slashes.** A source that does not end in an unescaped backslash is read from
between slashes as one token. The token holds the source with its slashes bare, and what stands
behind the closing slash is left as it is, with the line breaks of the source counted; there the
scanner is between tokens. Baring its slashes leaves a source as it is just if none of them was
escaped, and does not change how it is written. -/
theorem next?_escapeSlashes (cs : List Char) (h : endsInEscape cs = false) (line : Nat) :
    let token : Token := ⟨.regex (String.ofList (bareSlashes cs)), line⟩
    (∀ rest, Unread.next? .pattern ⟨line, '/' :: escapeSlashes false cs ++ '/' :: rest⟩ =
        .ok (some (token, ⟨line + cs.count '\n', rest⟩))) ∧
      (∀ ts, ('/' :: escapeSlashes false cs ++ ['/']).foldl (step .pattern) ⟨line, ts, .between⟩ =
        ⟨line + cs.count '\n', token :: ts, .between⟩) ∧
      (bareSlashes cs = cs ↔ ∀ i, escapesSlashAt cs i = false) ∧
      escapeSlashes false (bareSlashes cs) = escapeSlashes false cs := by
  have hafter := escapedAfter_of_endsInEscape h
  have htext := regexText_eq_bareSlashes h
  refine ⟨?_, ?_, bareSlashes_eq_self_iff cs, ?_⟩
  · intro rest
    have hread := regex?_escapeSlashes (unescapes_bareSlashes h) line ('/' :: rest)
    have hclose (l : Nat) : Unread.regex? l ('/' :: rest) = some ([], ⟨l, rest⟩) :=
      Unread.literal?_close '/' _ l rest
    rw [hclose, Unread.inFront_some, List.append_nil] at hread
    rw [List.cons_append, Unread.next?_slash, hread]
    rfl
  · intro ts
    rw [foldl_regex hafter, htext]
  · have hwritten := Pattern.escapeSlashes_regexText false cs hafter
    rw [htext] at hwritten
    exact hwritten

/-- Runs of one, two and three backslashes in front of a slash, and behind the token a text that
cannot be scanned. -/
theorem next?_escapeSlashes_runs :
    let cs := "a\\/b\\\\/c\n\\\\\\/".toList
    endsInEscape cs = false ∧
      escapeSlashes false cs = "a\\/b\\\\\\/c\n\\\\\\/".toList ∧
      bareSlashes cs = "a/b\\\\/c\n\\\\/".toList ∧
      Unread.next? .pattern ⟨1, '/' :: escapeSlashes false cs ++ '/' :: "\"d".toList⟩ =
        .ok (some (⟨.regex "a/b\\\\/c\n\\\\/", 1⟩, ⟨2, "\"d".toList⟩)) := by
  intro cs
  have hcs : endsInEscape cs = false := by decide +kernel
  have hread := (next?_escapeSlashes cs hcs 1).1 "\"d".toList
  have htext : bareSlashes cs = "a/b\\\\/c\n\\\\/".toList := by decide +kernel
  refine ⟨hcs, by decide +kernel, htext, ?_⟩
  rw [hread, htext, String.ofList_toList]
  rfl

end SexprQuery
