import Mathlib.Data.List.Basic
import SexprQuery.Proofs.MessageText
import SexprQuery.Search.Report

/-!
# Findings in JSON

A string in JSON text is read back up to the quote that ends it, with anything behind it
(`Json.readString?_string`). So the text of a finding tells what was found
(`Finding.jsonText_injective`): two findings that differ in the file, the line, the place or the
source are printed differently.
-/

namespace SexprQuery

namespace Json

/-! ## Strings -/

/-- What a character behind a backslash stands for. -/
def unescaped (c : Char) : Char :=
  match c with
  | 'b' => '\x08'
  | 'f' => '\x0c'
  | 'n' => '\n'
  | 'r' => '\r'
  | 't' => '\t'
  | c => c

/-- Read a string behind its first quote. What stands behind the last one is left. -/
def readString? : List Char → Option (List Char × List Char)
  | [] => none
  | '"' :: rest => some ([], rest)
  | '\\' :: 'u' :: a :: b :: c :: d :: rest => do
    let char ← Hexadecimal.character? [a, b, c, d]
    (readString? rest).map fun r => (char :: r.1, r.2)
  | '\\' :: c :: rest => (readString? rest).map fun r => (unescaped c :: r.1, r.2)
  | c :: rest => (readString? rest).map fun r => (c :: r.1, r.2)

/-- The four digits of a control are its number. -/
theorem character?_control {n : Nat} (h : n < 32) :
    Hexadecimal.character?
        ['0', '0', Hexadecimal.digitChar (n / 16), Hexadecimal.digitChar (n % 16)] =
      some (Char.ofNat n) := by
  have hvalue : Hexadecimal.value
      ['0', '0', Hexadecimal.digitChar (n / 16), Hexadecimal.digitChar (n % 16)] = n := by
    show 16 * (0 + Hexadecimal.digitValue (Hexadecimal.digitChar (n / 16))) +
      Hexadecimal.digitValue (Hexadecimal.digitChar (n % 16)) = n
    rw [Hexadecimal.digitValue_digitChar (by omega), Hexadecimal.digitValue_digitChar (by omega)]
    omega
  rw [Hexadecimal.character?, hvalue]
  exact if_pos ⟨by omega, by omega⟩

theorem readString?_stringChar (c : Char) (rest : List Char) :
    readString? (stringChar c ++ rest) = (readString? rest).map fun r => (c :: r.1, r.2) := by
  unfold stringChar
  split
  case h_8 hquote hslash _ _ _ _ _ =>
    split
    · next hcontrol =>
      have hmarker : "\\u00".toList = ['\\', 'u', '0', '0'] := rfl
      rw [hmarker]
      show (Hexadecimal.character? ['0', '0', Hexadecimal.digitChar (c.toNat / 16),
        Hexadecimal.digitChar (c.toNat % 16)] >>= _) = _
      rw [character?_control hcontrol, Char.ofNat_toNat]
      rfl
    · rw [List.singleton_append]
      exact readString?.eq_5 c rest hquote (fun _ _ _ _ _ h => absurd h hslash)
        (fun _ _ h => absurd h hslash)
  all_goals rfl

theorem readString?_flatMap (cs rest : List Char) :
    readString? (cs.flatMap stringChar ++ '"' :: rest) = some (cs, rest) := by
  induction cs with
  | nil => rfl
  | cons c cs ih => rw [List.flatMap_cons, List.append_assoc, readString?_stringChar, ih]; rfl

theorem toList_string (text : String) :
    (string text).toList = '"' :: (text.toList.flatMap stringChar ++ ['"']) := by
  simp [string]

/-- A written string ends where its last quote stands. -/
theorem string_append_inj {a b r s : String} (h : string a ++ r = string b ++ s) :
    a = b ∧ r = s := by
  have hchars := congrArg String.toList h
  rw [String.toList_append, String.toList_append, toList_string, toList_string, List.cons_append,
    List.cons_append, List.append_assoc, List.append_assoc, List.singleton_append,
    List.singleton_append] at hchars
  have hread := congrArg readString? (List.cons.inj hchars).2
  rw [readString?_flatMap, readString?_flatMap] at hread
  obtain ⟨htext, hrest⟩ := Prod.mk.inj (Option.some.inj hread)
  exact ⟨String.toList_inj.mp htext, String.toList_inj.mp hrest⟩

/-- A string of characters that stand for themselves. -/
theorem string_of_plain {text : String} (h : ∀ c ∈ text.toList, stringChar c = [c]) :
    string text = "\"" ++ text ++ "\"" := by
  have hchars : text.toList.flatMap stringChar = text.toList := by
    rw [List.flatMap_congr h, List.flatMap_singleton']
  rw [string, hchars, String.ofList_toList]

/-! ## Numbers that may be missing -/

theorem toList_toString (n : Nat) : (toString n).toList = Decimal.digits n := by
  have hdigit : ∀ d < 10, Nat.digitChar d = Decimal.digitChar d := by decide
  rw [Nat.toString_eq_repr, Nat.toList_repr]
  induction n using Nat.strongRecOn with
  | ind n ih =>
    rw [Nat.toDigits_eq_if (by decide), Decimal.digits]
    split
    · next hsmall => rw [hdigit n hsmall]
    · next hlarge => rw [ih (n / 10) (by omega), hdigit (n % 10) (by omega)]

theorem isDigit_of_mem_toString {n : Nat} {c : Char} (h : c ∈ (toString n).toList) :
    Decimal.isDigit c = true :=
  Decimal.isDigit_of_mem_digits (toList_toString n ▸ h)

/-- No number is written as one that is missing. -/
theorem toString_ne_null (n : Nat) : toString n ≠ "null" := by
  intro heq
  have hletter : 'n' ∈ (toString n).toList := by
    rw [heq]
    decide
  exact absurd (isDigit_of_mem_toString hletter) (by decide)

theorem optional_injective {l m : Option Nat} (h : optional l = optional m) : l = m := by
  match l, m with
  | none, none => rfl
  | none, some n => exact absurd h.symm (toString_ne_null n)
  | some n, none => exact absurd h (toString_ne_null n)
  | some m, some n =>
    have hdigits := congrArg String.toList h
    rw [optional, optional, toList_toString, toList_toString] at hdigits
    rw [← Decimal.value_digits m, hdigits, Decimal.value_digits]

theorem ne_comma_of_mem_optional (line : Option Nat) :
    ∀ c ∈ (optional line).toList, (c != ',') = true := by
  cases line with
  | none =>
    have hnull : (optional none).toList.all (· != ',') = true := rfl
    exact List.all_eq_true.mp hnull
  | some n =>
    rintro c hc
    rw [bne_iff_ne]
    rintro rfl
    exact absurd (isDigit_of_mem_toString hc) (by decide)

/-- Such a number ends where a comma stands. -/
theorem optional_append_inj {l m : Option Nat} {r s : String}
    (h : optional l ++ ("," ++ r) = optional m ++ ("," ++ s)) : l = m ∧ r = s := by
  have hchars : (optional l).toList ++ ',' :: r.toList = (optional m).toList ++ ',' :: s.toList := by
    simpa using congrArg String.toList h
  have hstop : ∀ t : List Char, ∀ c ∈ (',' :: t).head?, (c != ',') = false := by
    rintro t c hc
    rw [← Option.some.inj hc]
    rfl
  obtain ⟨hline, hrest⟩ := Message.append_inj_of_all (ne_comma_of_mem_optional l)
    (ne_comma_of_mem_optional m) (hstop _) (hstop _) hchars
  exact ⟨optional_injective (String.toList_inj.mp hline),
    String.toList_inj.mp (List.cons.inj hrest).2⟩

end Json

/-! ## Findings -/

namespace Finding

/-- A finding as an object. -/
def jsonText (r : Finding) : String :=
  "  \x7b\n    \"file\": " ++ Json.string r.file ++ ",\n    \"line\": " ++ Json.optional r.line ++
    ",\n    \"path\": " ++ Json.string r.place ++ ",\n    \"source\": " ++
      Json.string r.source ++ "\n  \x7d"

theorem object_fields (r : Finding) : Json.object r.fields = r.jsonText := by
  have hfield : ∀ before name text value : String,
      before ++ "    " ++ Json.string name ++ ": " = text →
        before ++ ("    " ++ (Json.string name ++ (": " ++ value))) = text ++ value := by
    rintro before name _ value rfl
    simp only [String.append_assoc]
  unfold Json.object Finding.fields jsonText
  simp only [List.map_cons, List.map_nil, String.intercalate_cons_cons,
    String.intercalate_singleton, String.append_assoc]
  rw [hfield "  \x7b\n" "file" "  \x7b\n    \"file\": " _ rfl,
    hfield ",\n" "line" ",\n    \"line\": " _ rfl, hfield ",\n" "path" ",\n    \"path\": " _ rfl,
    hfield ",\n" "source" ",\n    \"source\": " _ rfl]

/-- The object tells what was found. -/
theorem jsonText_injective {a b : Finding} (h : a.jsonText = b.jsonText) : a = b := by
  obtain ⟨file, line, place, source⟩ := a
  obtain ⟨file', line', place', source'⟩ := b
  have hcomma : ",\n    \"path\": " = "," ++ "\n    \"path\": " := rfl
  unfold jsonText at h
  simp only [hcomma, String.append_assoc] at h
  obtain ⟨rfl, hline⟩ := Json.string_append_inj ((String.append_right_inj _).mp h)
  obtain ⟨rfl, hplace⟩ := Json.optional_append_inj ((String.append_right_inj _).mp hline)
  obtain ⟨rfl, hsource⟩ := Json.string_append_inj ((String.append_right_inj _).mp hplace)
  obtain ⟨rfl, -⟩ := Json.string_append_inj ((String.append_right_inj _).mp hsource)
  rfl

end Finding
end SexprQuery
