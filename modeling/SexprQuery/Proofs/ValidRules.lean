import SexprQuery.Proofs.Cursor
import SexprQuery.Proofs.RuleRuns
import SexprQuery.Rule.Validation

/-!
# What checking rules is good for

Checking and applying a rule read its texts at different times. A rule without issues has
texts that can be read (`Rule.IsSound`), and then the only fault that is left is a wrong
number of matches where an exact number is required (`Rule.IsSound.result_run_eq_error_iff`).
A guard that asks for something has a pattern to ask for: renamings go without a pattern,
and checking refuses to guard them. So every guard is asked
(`Rule.IsSound.result_run_of_guard`).

`RuleSet.apply_of_isValid` says both of every rule in a valid rule set, on the datum that
the rules before it have left.
-/

namespace SexprQuery

/-- The matches of a datum are its nodes that satisfy the pattern. -/
theorem Datum.countMatches_eq (d : Datum) (p : Pattern) :
    d.countMatches p = d.nodes.countP p.satisfiesNode := by
  rw [Datum.countMatches]
  cases hd : d.node? with
  | none =>
    cases d with
    | list => cases hd
    | _ => rfl
  | some n =>
    show (n.search p).length = _
    rw [Datum.eq_toDatum_of_node? hd, ← Node.nodes, ← n.map_snd_walk, List.countP_map, Node.search,
      ← List.countP_eq_length_filter]
    rfl

namespace Rule

/-! ## Rules without issues -/

theorem exists_of_datumIssues_eq_nil {r : Rule} {field : RuleField} {text : String}
    (h : r.datumIssues field text = []) : ∃ d, readText text = .ok d := by
  rw [datumIssues] at h
  rw [readText]
  cases hd : readDatum text with
  | ok d => exact ⟨d, rfl⟩
  | error e =>
    rw [hd] at h
    cases h

theorem exists_of_atomIssues_eq_nil {r : Rule} {field : RuleField} {text : String}
    (h : r.atomIssues field text = []) : ∃ d, readText text = .ok d ∧ d.isList = false := by
  rw [atomIssues] at h
  rw [readText]
  cases hd : readDatum text with
  | ok d =>
    rw [hd] at h
    dsimp only at h
    split at h
    · cases h
    · next hatom => exact ⟨d, rfl, Bool.eq_false_iff.mpr hatom⟩
  | error e =>
    rw [hd] at h
    cases h

/-- Every action but renaming has a pattern that can be parsed. -/
theorem exists_of_patternIssues_eq_nil {r : Rule} (h : r.patternIssues = [])
    (haction : ∀ old new, r.action ≠ .rename old new) :
    ∃ text p, r.pattern = some text ∧ Pattern.parse text = .ok (some p) := by
  unfold patternIssues at h
  split at h
  · cases h
  · next old new hrename _ => exact absurd hrename (haction old new)
  · cases h
  · next text htext _ =>
    unfold parsedIssues at h
    split at h
    · next p hparse => exact ⟨text, p, htext, hparse⟩
    · cases h
    · cases h

/-- A renaming has none. -/
theorem pattern_of_patternIssues_eq_nil {r : Rule} {old new : String} (h : r.patternIssues = [])
    (haction : r.action = .rename old new) : r.pattern = none := by
  unfold patternIssues at h
  split at h
  · cases h
  · assumption
  · next _ hother => exact absurd haction (hother old new)
  · next hother => exact absurd haction (hother old new)

/-- Without a pattern no guard asks for anything. -/
theorem guard_of_guardIssues_eq_nil {r : Rule} (h : r.guardIssues = []) (hp : r.pattern = none) :
    ∀ g ∈ r.guard, (g.ensureAbsent || g.ensurePresent) = false := by
  intro g hg
  rw [guardIssues, Option.mem_def.mp hg, hp] at h
  have hcombination := (List.append_eq_nil_iff.mp h).2
  cases hflags : g.ensureAbsent || g.ensurePresent with
  | false => rfl
  | true =>
    rw [hflags] at hcombination
    cases hcombination

/-- A rule with the texts that it needs: a renaming with two atoms, and with no guard that
asks for anything, or a rule with a pattern, and with a datum to put in where it
replaces. -/
inductive IsSound (r : Rule) : Prop
  | rename (old new : String) (a b : Datum) (haction : r.action = .rename old new)
      (hold : readText old = .ok a) (hnew : readText new = .ok b)
      (hguard : ∀ g ∈ r.guard, (g.ensureAbsent || g.ensurePresent) = false)
  | expect (count : Nat) (text : String) (p : Pattern) (haction : r.action = .expect count)
      (htext : r.pattern = some text) (hpattern : Pattern.parse text = .ok (some p))
  | replace (new : String) (b : Datum) (text : String) (p : Pattern)
      (haction : r.action = .replace new ∨ r.action = .replaceFirst new)
      (hnew : readText new = .ok b) (htext : r.pattern = some text)
      (hpattern : Pattern.parse text = .ok (some p))

/-- A rule without issues has the texts that it needs. -/
theorem isSound_of_issues_eq_nil {r : Rule} (h : r.issues = []) : r.IsSound := by
  rw [issues, List.append_eq_nil_iff, List.append_eq_nil_iff] at h
  obtain ⟨⟨hpattern, haction⟩, hguard⟩ := h
  have hmatching := exists_of_patternIssues_eq_nil hpattern
  rw [actionIssues] at haction
  cases hkind : r.action with
  | rename old new =>
    rw [hkind] at haction
    obtain ⟨hold, hnew⟩ := List.append_eq_nil_iff.mp haction
    obtain ⟨a, hold, -⟩ := exists_of_atomIssues_eq_nil hold
    obtain ⟨b, hnew, -⟩ := exists_of_atomIssues_eq_nil hnew
    have hnone := pattern_of_patternIssues_eq_nil hpattern hkind
    exact .rename old new a b hkind hold hnew (guard_of_guardIssues_eq_nil hguard hnone)
  | expect count =>
    obtain ⟨text, p, htext, hparse⟩ := hmatching (by simp [hkind])
    exact .expect count text p hkind htext hparse
  | replace new | replaceFirst new =>
    rw [hkind] at haction
    obtain ⟨b, hnew⟩ := exists_of_datumIssues_eq_nil haction
    obtain ⟨text, p, htext, hparse⟩ := hmatching (by simp [hkind])
    exact .replace new b text p (by simp [hkind]) hnew htext hparse

theorem parsePattern_of_parse {r : Rule} {text : String} {p : Pattern}
    (htext : r.pattern = some text) (hparse : Pattern.parse text = .ok (some p)) :
    r.parsePattern = .ok p := by
  rw [parsePattern, htext, Option.getD_some, hparse, neededPattern]

/-! ## Applying them -/

/-- A guard that finds what it asks for skips the rule, if that is no renaming. -/
theorem apply_of_skip? {r : Rule} {p : Pattern} {d : Datum} {reason : SkipReason}
    (haction : ∀ old new, r.action ≠ .rename old new) (hp : r.parsePattern = .ok p)
    (hskip : r.skip? (d.countMatches p) = some reason) :
    r.apply d = (.ok (.skipped reason), d) := by
  unfold apply
  split
  · next old new hrename => exact absurd hrename (haction old new)
  all_goals rw [applyGuarded_of_ok hp, hskip]

/-- A requirement that is not skipped holds, or fails with both numbers. -/
theorem apply_expect {r : Rule} {p : Pattern} {d : Datum} {count : Nat}
    (haction : r.action = .expect count) (hp : r.parsePattern = .ok p)
    (hskip : r.skip? (d.countMatches p) = none) :
    r.apply d =
      if d.countMatches p = count then (.ok .unchanged, d)
      else (.error (.countMismatch count (d.countMatches p)), d) := by
  rw [apply, haction]
  dsimp only
  rw [applyGuarded_of_ok hp, hskip]

/-- A rule that replaces succeeds where its texts can be read. -/
theorem exists_apply_replace {r : Rule} {p : Pattern} {new : String} {b : Datum}
    (haction : r.action = .replace new ∨ r.action = .replaceFirst new)
    (hnew : readText new = .ok b) (hp : r.parsePattern = .ok p) (d : Datum) :
    ∃ verdict, (r.apply d).1 = .ok verdict := by
  have hact : ∀ firstOnly, ∃ verdict,
      (r.applyGuarded d fun p _ => applyReplace firstOnly new p d).1 = .ok verdict := by
    intro firstOnly
    rw [applyGuarded_of_ok hp]
    split
    · exact ⟨_, rfl⟩
    · rw [applyReplace, hnew]
      exact ⟨_, rfl⟩
  unfold apply
  rcases haction with haction | haction
  · rw [haction]
    exact hact false
  · rw [haction]
    exact hact true

/-- A renaming succeeds where its texts can be read. -/
theorem apply_rename {r : Rule} {old new : String} {a b : Datum}
    (haction : r.action = .rename old new) (hold : readText old = .ok a)
    (hnew : readText new = .ok b) (d : Datum) :
    r.apply d = (.ok (renameIn a b d).1, (renameIn a b d).2) := by
  rw [apply, haction]
  dsimp only
  rw [applyRename, hold]
  dsimp only
  rw [hnew]

/-- The only way for a sound rule to fail is a wrong number of matches. -/
theorem IsSound.apply_eq_error_iff {r : Rule} (h : r.IsSound) (d : Datum) (fault : RuleFault) :
    (r.apply d).1 = .error fault ↔
      ∃ count text p, r.action = .expect count ∧ r.pattern = some text ∧
        Pattern.parse text = .ok (some p) ∧ r.skip? (d.countMatches p) = none ∧
        d.countMatches p ≠ count ∧ fault = .countMismatch count (d.countMatches p) := by
  constructor
  · intro hfail
    cases h with
    | rename old new a b haction hold hnew _ =>
      rw [apply_rename haction hold hnew] at hfail
      cases hfail
    | replace new b text p haction hnew htext hparse =>
      obtain ⟨verdict, hok⟩ :=
        exists_apply_replace haction hnew (parsePattern_of_parse htext hparse) d
      rw [hok] at hfail
      cases hfail
    | expect count text p haction htext hparse =>
      have hp := parsePattern_of_parse htext hparse
      cases hskip : r.skip? (d.countMatches p) with
      | some reason =>
        rw [apply_of_skip? (by simp [haction]) hp hskip] at hfail
        cases hfail
      | none =>
        rw [apply_expect haction hp hskip] at hfail
        split at hfail
        · cases hfail
        · next hne =>
          cases hfail
          exact ⟨count, text, p, haction, htext, hparse, hskip, hne, rfl⟩
  · rintro ⟨count, text, p, haction, htext, hparse, hskip, hne, rfl⟩
    rw [apply_expect haction (parsePattern_of_parse htext hparse) hskip, if_neg hne]

/-- A guard of a sound rule that asks for something has a pattern to ask for, and what it
finds decides if the rule is skipped. -/
theorem IsSound.exists_apply_of_guard {r : Rule} (h : r.IsSound) {g : Guard}
    (hg : r.guard = some g) (hflags : (g.ensureAbsent || g.ensurePresent) = true) :
    ∃ text p, r.pattern = some text ∧ Pattern.parse text = .ok (some p) ∧
      ∀ d reason, r.skip? (d.countMatches p) = some reason →
        r.apply d = (.ok (.skipped reason), d) := by
  cases h with
  | rename old new a b haction hold hnew hguard =>
    rw [hguard g hg] at hflags
    cases hflags
  | replace new b text p haction hnew htext hparse =>
    refine ⟨text, p, htext, hparse, ?_⟩
    intro d reason hskip
    refine apply_of_skip? ?_ (parsePattern_of_parse htext hparse) hskip
    rintro old new hrename
    rw [hrename] at haction
    rcases haction with haction | haction <;> cases haction
  | expect count text p haction htext hparse =>
    refine ⟨text, p, htext, hparse, ?_⟩
    intro d reason hskip
    exact apply_of_skip? (by simp [haction]) (parsePattern_of_parse htext hparse) hskip

/-- A guard for what is absent skips where nothing matches. -/
theorem skip?_of_ensureAbsent {r : Rule} {g : Guard} (hg : r.guard = some g)
    (habsent : g.ensureAbsent = true) : r.skip? 0 = some .alreadyAbsent := by
  rw [skip?, hg]
  simp [habsent]

/-- A guard for what is present skips where something matches. -/
theorem skip?_of_ensurePresent {r : Rule} {g : Guard} (hg : r.guard = some g)
    (hpresent : g.ensurePresent = true) {found : Nat} (hfound : 0 < found) :
    r.skip? found = some .alreadyPresent := by
  have hne : found ≠ 0 := Nat.ne_of_gt hfound
  rw [skip?, hg]
  simp [hpresent, hfound, hne]

/-! ## Their outcomes -/

/-- The outcome of a rule tells what came of applying it. -/
theorem result_run (r : Rule) (d : Datum) : (r.run d).1.result = (r.apply d).1 := rfl

/-- A sound rule fails exactly where it requires another number of matching nodes than there
is, and is not skipped. -/
theorem IsSound.result_run_eq_error_iff {r : Rule} (h : r.IsSound) (d : Datum)
    (fault : RuleFault) :
    (r.run d).1.result = .error fault ↔
      ∃ count text p, r.action = .expect count ∧ r.pattern = some text ∧
        Pattern.parse text = .ok (some p) ∧ r.skip? (d.nodes.countP p.satisfiesNode) = none ∧
        d.nodes.countP p.satisfiesNode ≠ count ∧
        fault = .countMismatch count (d.nodes.countP p.satisfiesNode) := by
  rw [result_run, h.apply_eq_error_iff]
  simp only [Datum.countMatches_eq]

/-- Either guard of a sound rule skips it where it holds of the matching nodes. -/
theorem IsSound.result_run_of_guard {r : Rule} (h : r.IsSound) {g : Guard}
    (hg : r.guard = some g) (hflags : (g.ensureAbsent || g.ensurePresent) = true) (d : Datum) :
    ∃ text p, r.pattern = some text ∧ Pattern.parse text = .ok (some p) ∧
      (g.ensureAbsent = true → d.nodes.countP p.satisfiesNode = 0 →
        (r.run d).1.result = .ok (.skipped .alreadyAbsent)) ∧
      (g.ensurePresent = true → 0 < d.nodes.countP p.satisfiesNode →
        (r.run d).1.result = .ok (.skipped .alreadyPresent)) := by
  obtain ⟨text, p, htext, hparse, hskipped⟩ := h.exists_apply_of_guard hg hflags
  simp only [Datum.countMatches_eq] at hskipped
  refine ⟨text, p, htext, hparse, ?_, ?_⟩
  · intro habsent hnone
    have hskip := skip?_of_ensureAbsent hg habsent
    rw [← hnone] at hskip
    rw [result_run, hskipped d _ hskip]
  · intro hpresent hsome
    have hskip := skip?_of_ensurePresent hg hpresent hsome
    rw [result_run, hskipped d _ hskip]

end Rule

/-! ## Valid rule sets -/

theorem issues_of_mem_rulesIssues {seen : List String} {rules : List Rule}
    (h : rulesIssues seen rules = []) : ∀ r ∈ rules, r.issues = [] := by
  induction rules generalizing seen with
  | nil => exact fun _ hr => nomatch hr
  | cons r rest ih =>
    rw [rulesIssues, List.append_eq_nil_iff, List.append_eq_nil_iff] at h
    obtain ⟨⟨-, hr⟩, hrest⟩ := h
    intro s hs
    rcases List.mem_cons.mp hs with rfl | hs
    · exact hr
    · exact ih hrest s hs

/-- The rules of a valid rule set have the texts that they need. -/
theorem RuleSet.IsValid.isSound {s : RuleSet} (h : s.IsValid) {r : Rule} (hr : r ∈ s.rules) :
    r.IsSound :=
  Rule.isSound_of_issues_eq_nil
    (issues_of_mem_rulesIssues (List.append_eq_nil_iff.mp h).2 r hr)

/-- **Valid rules.** Every rule of a valid rule set has its outcome. On the datum that the
rules before it have left, a rule fails exactly if it requires a number of matching nodes,
is not skipped, and the number is another; and the fault tells both numbers. A guard that
asks for something has a pattern: one for what is absent skips the rule where no node
matches, and one for what is present where some node does. -/
theorem RuleSet.apply_of_isValid {s : RuleSet} (h : s.IsValid) (d : Datum) :
    (s.apply d).1.length = s.rules.length ∧
      ∀ i r, s.rules[i]? = some r → ∃ o left, (s.apply d).1[i]? = some o ∧ o.id = r.id ∧
        left = (applyRules (s.rules.take i) d).2 ∧
        (∀ fault, o.result = .error fault ↔
          ∃ count text p, r.action = .expect count ∧ r.pattern = some text ∧
            Pattern.parse text = .ok (some p) ∧
            r.skip? (left.nodes.countP p.satisfiesNode) = none ∧
            left.nodes.countP p.satisfiesNode ≠ count ∧
            fault = .countMismatch count (left.nodes.countP p.satisfiesNode)) ∧
        ∀ g, r.guard = some g → (g.ensureAbsent || g.ensurePresent) = true →
          ∃ text p, r.pattern = some text ∧ Pattern.parse text = .ok (some p) ∧
            (g.ensureAbsent = true → left.nodes.countP p.satisfiesNode = 0 →
              o.result = .ok (.skipped .alreadyAbsent)) ∧
            (g.ensurePresent = true → 0 < left.nodes.countP p.satisfiesNode →
              o.result = .ok (.skipped .alreadyPresent)) := by
  have hlength := congrArg List.length (map_id_applyRules s.rules d)
  rw [List.length_map, List.length_map] at hlength
  refine ⟨hlength, ?_⟩
  intro i r hr
  have hsound := h.isSound (List.mem_of_getElem? hr)
  let left := (applyRules (s.rules.take i) d).2
  refine ⟨(r.run left).1, left, ?_, r.id_run left, rfl, hsound.result_run_eq_error_iff left, ?_⟩
  · rw [RuleSet.apply, applyRules_getElem?, hr]
    rfl
  · intro g hg hflags
    exact hsound.result_run_of_guard hg hflags left

/-- A requirement that does not hold of what a renaming has left, and a guard behind it. -/
theorem RuleSet.apply_of_isValid_renamed :
    ∃ (s : RuleSet) (d : Datum), s.IsValid ∧
      (∃ o, (s.apply d).1[1]? = some o ∧ o.result = .error (.countMismatch 2 1)) ∧
      ∃ o, (s.apply d).1[2]? = some o ∧ o.result = .ok (.skipped .alreadyPresent) := by
  let s : RuleSet :=
    ⟨"", none,
      [⟨"rename", none, .rename "sub" "add", some ⟨false, false⟩⟩,
        ⟨"two", some "(add _ _)", .expect 2, some ⟨true, false⟩⟩,
        ⟨"first", some "(add ___)", .replaceFirst "(sum)", some ⟨false, true⟩⟩]⟩
  let d : Datum := .list (some 1) [.sym "add", .list (some 1) [.sym "sub", .sym "a", .sym "b"]]
  have hvalid : s.IsValid := by decide +kernel
  have htwo : s.rules[1]? = some ⟨"two", some "(add _ _)", .expect 2, some ⟨true, false⟩⟩ := rfl
  have hfirst : s.rules[2]? =
    some ⟨"first", some "(add ___)", .replaceFirst "(sum)", some ⟨false, true⟩⟩ := rfl
  have hwild : Pattern.parse "(add _ _)" =
    .ok (some (.shape [.equals (.sym "add"), .wild, .wild])) := by rfl
  have hrest : Pattern.parse "(add ___)" =
    .ok (some (.shape [.equals (.sym "add"), .remaining])) := by rfl
  refine ⟨s, d, hvalid, ?_, ?_⟩
  · obtain ⟨o, left, ho, -, hleft, hfail, -⟩ := (RuleSet.apply_of_isValid hvalid d).2 1 _ htwo
    refine ⟨o, ho, (hfail _).mpr ⟨2, _, _, rfl, rfl, hwild, ?_⟩⟩
    rw [hleft]
    decide +kernel
  · obtain ⟨o, left, ho, -, hleft, -, hguard⟩ := (RuleSet.apply_of_isValid hvalid d).2 2 _ hfirst
    obtain ⟨text, p, htext, hparse, -, hpresent⟩ := hguard ⟨false, true⟩ rfl rfl
    cases htext
    rw [hrest] at hparse
    cases hparse
    refine ⟨o, ho, hpresent rfl ?_⟩
    rw [hleft]
    decide +kernel

end SexprQuery
