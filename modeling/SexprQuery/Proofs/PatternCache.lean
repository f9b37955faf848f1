import SexprQuery.Command.Failure
import SexprQuery.Pattern.Cache
import SexprQuery.Rule.Application
import SexprQuery.Rule.Validation

/-!
# A cache answers as parsing does

A cache is sound if each of its texts stands once, with what it parses to, and if it holds
no more texts than it may (`PatternCache.IsSound`). Whatever is looked up in a sound cache
is what parsing gives (`IsSound.fst_get`), and every use keeps a cache sound
(`IsSound.step`), so both hold after any uses of an empty one.

What a lookup does to a cache is said by `PatternCache.get_cases`: a hit and a fault leave
it, a miss that parses is put in. A full cache is emptied then, and nothing else is ever
lost from one lookup to the next (`find?_insert_of_ne`).

Rules and commands parse the patterns that they need. They could look them up in any cache
that has been used before, and would get the same patterns, faults and issues
(`needed_after`).
-/

namespace SexprQuery
namespace PatternCache

/-- What holds of a cache at any time. -/
structure IsSound (c : PatternCache) : Prop where
  parsed : ∀ e ∈ c.entries, Pattern.parse e.1 = .ok e.2
  distinct : (c.entries.map Prod.fst).Nodup
  size_le : c.size ≤ capacity

/-! ## Finding and inserting -/

/-- What is kept for a text stands among the entries. -/
theorem mem_of_find? {c : PatternCache} {text : String} {p : Option Pattern}
    (h : c.find? text = some p) : (text, p) ∈ c.entries := by
  obtain ⟨e, he, rfl⟩ := Option.map_eq_some_iff.mp h
  have htext : e.1 = text := by simpa using List.find?_some he
  rw [← htext]
  exact List.mem_of_find?_eq_some he

/-- A text for which nothing is kept is not among those of the entries. -/
theorem notMem_of_find?_eq_none {c : PatternCache} {text : String} (h : c.find? text = none) :
    text ∉ c.entries.map Prod.fst := by
  intro hmem
  obtain ⟨e, he, rfl⟩ := List.mem_map.mp hmem
  have hnone := List.find?_eq_none.mp (Option.map_eq_none_iff.mp h) e he
  simp at hnone

/-- A text that has been inserted is found. -/
theorem find?_insert_self (c : PatternCache) (text : String) (p : Option Pattern) :
    (c.insert text p).find? text = some p := by
  unfold insert
  split <;> simp [find?]

/-- Every other text is found as before, unless the cache was full. -/
theorem find?_insert_of_ne {c : PatternCache} {text other : String} (p : Option Pattern)
    (hne : other ≠ text) (hroom : c.size < capacity) :
    (c.insert text p).find? other = c.find? other := by
  rw [insert, if_pos hroom, find?, find?, List.find?_cons_of_neg]
  simpa using hne.symm

/-- A full cache keeps the new text only. -/
theorem insert_of_full {c : PatternCache} (text : String) (p : Option Pattern)
    (hfull : ¬ c.size < capacity) : c.insert text p = ⟨[(text, p)]⟩ := by
  rw [insert, if_neg hfull]

/-! ## One lookup -/

/-- A lookup is a hit, or a miss that parses, or a miss that does not. -/
theorem get_cases (c : PatternCache) (text : String) :
    (∃ p, c.find? text = some p ∧ c.get text = (.ok p, c)) ∨
      (∃ p, c.find? text = none ∧ Pattern.parse text = .ok p ∧
        c.get text = (.ok p, c.insert text p)) ∨
      ∃ e, c.find? text = none ∧ Pattern.parse text = .error e ∧ c.get text = (.error e, c) := by
  cases hfind : c.find? text with
  | some p =>
    refine .inl ⟨p, rfl, ?_⟩
    rw [get, hfind]
  | none =>
    cases hparse : Pattern.parse text with
    | ok p =>
      refine .inr (.inl ⟨p, rfl, rfl, ?_⟩)
      rw [get, hfind, hparse]
    | error e =>
      refine .inr (.inr ⟨e, rfl, rfl, ?_⟩)
      rw [get, hfind, hparse]

/-- A sound cache answers as parsing does. -/
theorem IsSound.fst_get {c : PatternCache} (h : c.IsSound) (text : String) :
    (c.get text).1 = Pattern.parse text := by
  rcases c.get_cases text with ⟨p, hfind, hget⟩ | ⟨p, -, hparse, hget⟩ | ⟨e, -, hparse, hget⟩
  · rw [hget, h.parsed _ (mem_of_find? hfind)]
  · rw [hget, hparse]
  · rw [hget, hparse]

/-- A lookup that fails leaves the cache as it is. -/
theorem get_snd_of_error {c : PatternCache} {text : String} {e : PatternError}
    (h : (c.get text).1 = .error e) : (c.get text).2 = c := by
  rcases c.get_cases text with ⟨p, -, hget⟩ | ⟨p, -, -, hget⟩ | ⟨_, -, -, hget⟩
  · rw [hget]
  · rw [hget] at h
    cases h
  · rw [hget]

/-- A lookup that succeeds leaves its text in the cache. -/
theorem find?_get_of_ok {c : PatternCache} {text : String} {p : Option Pattern}
    (h : (c.get text).1 = .ok p) : (c.get text).2.find? text = some p := by
  rcases c.get_cases text with ⟨_, hfind, hget⟩ | ⟨_, -, -, hget⟩ | ⟨e, -, -, hget⟩
  · rw [hget] at h ⊢
    cases h
    exact hfind
  · rw [hget] at h ⊢
    cases h
    exact c.find?_insert_self text _
  · rw [hget] at h
    cases h

/-- Every other text is found as before, but a miss in a full cache loses them all if it
parses. -/
theorem find?_get_of_ne (c : PatternCache) {text other : String} (hne : other ≠ text) :
    (c.get text).2.find? other =
      if c.find? text = none ∧ capacity ≤ c.size ∧ (Pattern.parse text).isOk = true then none
      else c.find? other := by
  rcases c.get_cases text with
    ⟨p, hfind, hget⟩ | ⟨p, hnone, hparse, hget⟩ | ⟨e, -, hparse, hget⟩
  · rw [hget, hfind, if_neg]
    rintro ⟨hnone, -⟩
    cases hnone
  · rw [hget]
    by_cases hroom : c.size < capacity
    · rw [find?_insert_of_ne p hne hroom, if_neg]
      rintro ⟨-, hfull, -⟩
      omega
    · rw [insert_of_full text p hroom, if_pos ⟨hnone, Nat.not_lt.mp hroom, by rw [hparse]; rfl⟩]
      simp [find?, hne.symm]
  · rw [hget, hparse, if_neg]
    rintro ⟨-, -, hok⟩
    cases hok

/-! ## What uses keep -/

theorem isSound_empty : empty.IsSound where
  parsed _ he := nomatch he
  distinct := List.nodup_nil
  size_le := Nat.zero_le capacity

/-- A text that was missing can be put in with what it parses to. -/
theorem IsSound.insert {c : PatternCache} (h : c.IsSound) {text : String} {p : Option Pattern}
    (hnone : c.find? text = none) (hparse : Pattern.parse text = .ok p) :
    (c.insert text p).IsSound := by
  by_cases hroom : c.size < capacity
  · rw [PatternCache.insert, if_pos hroom]
    refine ⟨?_, ?_, hroom⟩
    · intro e he
      rcases List.mem_cons.mp he with rfl | he
      · exact hparse
      · exact h.parsed e he
    · exact List.nodup_cons.mpr ⟨notMem_of_find?_eq_none hnone, h.distinct⟩
  · rw [insert_of_full text p hroom]
    refine ⟨?_, List.pairwise_singleton _ text, by show 1 ≤ 256; omega⟩
    intro e he
    obtain rfl := List.mem_singleton.mp he
    exact hparse

/-- Every use keeps a cache sound. -/
theorem IsSound.step {c : PatternCache} (h : c.IsSound) (use : Use) : (c.step use).IsSound := by
  cases use with
  | clear => exact isSound_empty
  | get text =>
    show (c.get text).2.IsSound
    rcases c.get_cases text with ⟨p, -, hget⟩ | ⟨p, hnone, hparse, hget⟩ | ⟨e, -, -, hget⟩
    · rwa [hget]
    · rw [hget]
      exact h.insert hnone hparse
    · rwa [hget]

theorem IsSound.after {c : PatternCache} (h : c.IsSound) (uses : List Use) :
    (c.after uses).IsSound := by
  induction uses generalizing c with
  | nil => exact h
  | cons use rest ih => exact ih (h.step use)

/-- What a lookup gives without a cache. -/
def Use.parsed? : Use → Option (Except PatternError (Option Pattern))
  | .get text => some (Pattern.parse text)
  | .clear => none

/-- The lookups among uses of a sound cache are parsed one by one. -/
theorem IsSound.answers_eq {c : PatternCache} (h : c.IsSound) (uses : List Use) :
    c.answers uses = uses.filterMap Use.parsed? := by
  induction uses generalizing c with
  | nil => rfl
  | cons use rest ih =>
    have hrest := ih (h.step use)
    cases use with
    | get text =>
      rw [answers, hrest, h.fst_get]
      rfl
    | clear => exact hrest

/-- **Looking up.** After any uses of an empty cache, every lookup gives what parsing
gives. The cache holds at most 256 texts, each once and with what it parses to. A lookup
that fails leaves it as it is, and one that succeeds leaves its text in it. Every other
text is found as before, except behind a miss in a full cache: if that parses, the others
are gone. -/
theorem get_after (uses : List Use) :
    empty.answers uses = uses.filterMap Use.parsed? ∧
      (empty.after uses).size ≤ 256 ∧
      ((empty.after uses).entries.map Prod.fst).Nodup ∧
      (∀ e ∈ (empty.after uses).entries, Pattern.parse e.1 = .ok e.2) ∧
      ∀ text,
        ((empty.after uses).get text).1 = Pattern.parse text ∧
        (∀ e, ((empty.after uses).get text).1 = .error e →
          ((empty.after uses).get text).2 = empty.after uses) ∧
        (∀ p, ((empty.after uses).get text).1 = .ok p →
          ((empty.after uses).get text).2.find? text = some p) ∧
        ∀ other, other ≠ text →
          ((empty.after uses).get text).2.find? other =
            if (empty.after uses).find? text = none ∧ (empty.after uses).size = 256 ∧
              (Pattern.parse text).isOk = true then none
            else (empty.after uses).find? other := by
  have hsound := isSound_empty.after uses
  refine ⟨isSound_empty.answers_eq uses, hsound.size_le, hsound.distinct, hsound.parsed, ?_⟩
  intro text
  refine ⟨hsound.fst_get text, fun _ => get_snd_of_error, fun _ => find?_get_of_ok, ?_⟩
  intro other hne
  have hfull : capacity ≤ (empty.after uses).size ↔ (empty.after uses).size = 256 :=
    ⟨fun h => Nat.le_antisymm hsound.size_le h, fun h => Nat.le_of_eq h.symm⟩
  rw [find?_get_of_ne _ hne]
  simp only [hfull]

/-! ## Where patterns are needed -/

/-- A sound cache can be asked for the pattern of a rule that is applied. -/
theorem IsSound.parsePattern_eq {c : PatternCache} (h : c.IsSound) (r : Rule) :
    r.parsePattern = Rule.neededPattern (c.get (r.pattern.getD "")).1 := by
  rw [h.fst_get, Rule.parsePattern]

/-- It can be asked for that of a rule that is checked. -/
theorem IsSound.patternIssues_eq {c : PatternCache} (h : c.IsSound) {r : Rule} {text : String}
    (htext : r.pattern = some text) (haction : ∀ old new, r.action ≠ .rename old new) :
    r.patternIssues = r.parsedIssues (c.get text).1 := by
  rw [h.fst_get, Rule.patternIssues, htext]
  cases hr : r.action with
  | rename old new => exact absurd hr (haction old new)
  | replace _ | replaceFirst _ | expect _ => rfl

/-- And for that of a command. -/
theorem IsSound.readPattern_eq {c : PatternCache} (h : c.IsSound) (text : String) :
    Command.readPattern text = Command.neededPattern text (c.get text).1 := by
  rw [h.fst_get, Command.readPattern]

/-- **Patterns from a cache.** Applying a rule, checking it and reading the pattern of a command
come to the same with what a cache gives for the text, whatever it was used for before. -/
theorem needed_after (uses : List Use) :
    (∀ r : Rule,
      r.parsePattern = Rule.neededPattern ((empty.after uses).get (r.pattern.getD "")).1) ∧
    (∀ (r : Rule) text, r.pattern = some text → (∀ old new, r.action ≠ .rename old new) →
      r.patternIssues = r.parsedIssues ((empty.after uses).get text).1) ∧
    ∀ text, Command.readPattern text =
      Command.neededPattern text ((empty.after uses).get text).1 := by
  have hsound := isSound_empty.after uses
  exact ⟨hsound.parsePattern_eq, fun _ _ => hsound.patternIssues_eq, hsound.readPattern_eq⟩

end PatternCache
end SexprQuery
