import SexprQuery.Command.Run
import SexprQuery.Proofs.RuleRuns

/-!
# Files stay whole

Whatever ends the application of a rule file to data files, each file is either as it
was or wholly rewritten (`Command.apply_keeps_files_whole`).

* Writing in the place of a file leaves the directories and the places of files as they
  are (`FileTree.SameEntries.put`), so names lead where they led before
  (`SameEntries.locate`), and what is read elsewhere stays the same
  (`SameEntries.readForms`).
* One file: it is settled, and no other place is touched (`RuleSet.leaves_of_store`).
* A batch: it settles the names up to one that refuses, and touches nothing else
  (`RuleSet.leaves_applyToFiles`). That needs names that lead to different files: a
  second name of a file would find what the first one has left.
-/

namespace SexprQuery

/-- Where another error would be told, nothing else is different. -/
theorem eq_ok_of_mapError {ε δ α : Type} {x : Except ε α} {f : ε → δ} {a : α}
    (h : x.mapError f = .ok a) : x = .ok a := by
  cases x with
  | error => cases h
  | ok => cases h; rfl

namespace FileTree

/-! ## Trees that differ in contents only -/

/-- The second tree has the directories of the first and files in the same places; what
is in the files may differ. -/
structure SameEntries (t u : FileTree) : Prop where
  workingDirectory : u.workingDirectory = t.workingDirectory
  isDirectory : ∀ p, u.isDirectory p = t.isDirectory p
  isFile : ∀ p, (u.file? p).isSome = (t.file? p).isSome

/-- The place of the file that a name leads to. -/
def fileOf? (t : FileTree) (name : String) : Option Place :=
  (t.locate name).toOption.filter fun p => (t.file? p).isSome

/-- True for names of which no two lead to one file. -/
def NamesApart (t : FileTree) (names : List String) : Prop := (names.filterMap t.fileOf?).Nodup

instance (t : FileTree) (names : List String) : Decidable (t.NamesApart names) :=
  inferInstanceAs (Decidable (List.Nodup _))

theorem fileOf?_eq_some {t : FileTree} {name : String} {p : Place} :
    t.fileOf? name = some p ↔ t.locate name = .ok p ∧ (t.file? p).isSome := by
  rw [fileOf?]
  cases t.locate name with
  | error => simp [Except.toOption]
  | ok q =>
    simp only [Except.toOption, Option.filter_eq_some_iff, Option.some.injEq, Except.ok.injEq]

theorem NamesApart.of_append {t : FileTree} {names others : List String}
    (h : t.NamesApart (names ++ others)) : t.NamesApart others := by
  rw [NamesApart, List.filterMap_append] at h
  exact h.of_append_right

/-- No later name leads back to a file. -/
theorem NamesApart.fileOf?_ne {t : FileTree} {names others : List String}
    (h : t.NamesApart (names ++ others)) {name other : String} (hname : name ∈ names)
    (hother : other ∈ others) {p : Place} (hp : t.fileOf? name = some p) :
    t.fileOf? other ≠ some p := by
  rw [NamesApart, List.filterMap_append, List.nodup_append] at h
  intro hp'
  exact h.2.2 p (List.mem_filterMap.mpr ⟨name, hname, hp⟩) p
    (List.mem_filterMap.mpr ⟨other, hother, hp'⟩) rfl

theorem map_fst_putIn {p : Place} (content : ByteArray) {files : List (Place × ByteArray)}
    (h : (files.find? fun f => f.1 = p).isSome) :
    (putIn p content files).map Prod.fst = files.map Prod.fst := by
  induction files with
  | nil => cases h
  | cons f rest ih =>
    by_cases hf : f.1 = p
    · simp [putIn, hf]
    · rw [putIn, if_neg hf, List.map_cons, List.map_cons, ih (by simpa [hf] using h)]

/-- Of the files only the places decide where directories are. -/
theorem isDirectory_eq (t : FileTree) (p : Place) :
    t.isDirectory p = (p.isPrefixOf t.workingDirectory ||
      t.directories.any (fun d => p.isPrefixOf d) ||
        (t.files.map Prod.fst).any fun q => p.isPrefixOf q && p != q) := by
  rw [isDirectory, List.any_map]
  rfl

namespace SameEntries

variable {t u v : FileTree}

theorem refl (t : FileTree) : t.SameEntries t := ⟨rfl, fun _ => rfl, fun _ => rfl⟩

theorem trans (h : t.SameEntries u) (h' : u.SameEntries v) : t.SameEntries v where
  workingDirectory := h'.workingDirectory.trans h.workingDirectory
  isDirectory p := (h'.isDirectory p).trans (h.isDirectory p)
  isFile p := (h'.isFile p).trans (h.isFile p)

/-- A file may get another content. -/
theorem put {p : Place} (h : (t.file? p).isSome) (content : ByteArray) :
    t.SameEntries (t.put p content) where
  workingDirectory := rfl
  isDirectory q := by
    have hfiles : (t.put p content).files.map Prod.fst = t.files.map Prod.fst :=
      map_fst_putIn content (by simpa [file?] using h)
    rw [isDirectory_eq, isDirectory_eq, hfiles]
    rfl
  isFile q := by
    rw [file?_put]
    split
    · next heq => rw [← heq, h]; rfl
    · rfl

theorem expectDirectory (h : t.SameEntries u) (p : Place) :
    u.expectDirectory p = t.expectDirectory p := by
  rw [FileTree.expectDirectory, FileTree.expectDirectory, h.isDirectory, h.isFile]

theorem follow (h : t.SameEntries u) (p : Place) (pieces : List String) :
    u.follow p pieces = t.follow p pieces := by
  induction pieces generalizing p with
  | nil => rfl
  | cons piece rest ih => simp only [FileTree.follow, h.expectDirectory, ih]

theorem start (h : t.SameEntries u) (name : String) : u.start name = t.start name := by
  rw [FileTree.start, FileTree.start, h.workingDirectory]

/-- Names lead where they lead in the other tree. -/
theorem locate (h : t.SameEntries u) (name : String) : u.locate name = t.locate name := by
  rw [FileTree.locate, FileTree.locate, h.start, h.follow]

theorem fileOf? (h : t.SameEntries u) (name : String) : u.fileOf? name = t.fileOf? name := by
  rw [FileTree.fileOf?, FileTree.fileOf?, h.locate]
  simp only [h.isFile]

theorem namesApart (h : t.SameEntries u) (names : List String) :
    u.NamesApart names ↔ t.NamesApart names := by
  rw [NamesApart, NamesApart, funext h.fileOf?]

/-- Files can be written where they can be written in the other tree. -/
theorem target (h : t.SameEntries u) (name : String) : u.target name = t.target name := by
  simp only [FileTree.target, directoryName, h.workingDirectory, h.start, h.follow,
    h.expectDirectory, h.isDirectory]

/-- A name of a file with the same content reads the same, and so does one that leads to
no file. -/
theorem readForms (h : t.SameEntries u) {name : String}
    (hcontent : ∀ p, t.fileOf? name = some p → u.file? p = t.file? p) :
    u.readForms name = t.readForms name := by
  have hread : u.read name = t.read name := by
    rw [FileTree.read, FileTree.read, h.locate]
    cases hp : t.locate name with
    | error => rfl
    | ok p =>
      have hfile : u.file? p = t.file? p := by
        by_cases hsome : (t.file? p).isSome
        · exact hcontent p (fileOf?_eq_some.mpr ⟨hp, hsome⟩)
        · rw [Option.not_isSome_iff_eq_none.mp hsome, ← Option.not_isSome_iff_eq_none, h.isFile]
          exact hsome
      show (if u.isDirectory p then _ else _) = (if t.isDirectory p then _ else _)
      rw [h.isDirectory, hfile]
  rw [FileTree.readForms, FileTree.readForms, readText, readText, hread]

end SameEntries

/-! ## Writing what was read -/

/-- Only the name of a file can be read. -/
theorem exists_fileOf?_of_readForms {t : FileTree} {name text : String}
    {forms : List Datum} (h : t.readForms name = .ok (text, forms)) :
    ∃ p, t.fileOf? name = some p := by
  rw [readForms] at h
  obtain ⟨text', htext, -⟩ := exists_of_bind_eq_ok h
  replace htext := eq_ok_of_mapError htext
  rw [readText] at htext
  obtain ⟨content, hread, -⟩ := exists_of_bind_eq_ok htext
  rw [read] at hread
  obtain ⟨p, hp, hread⟩ := exists_of_bind_eq_ok hread
  refine ⟨p, fileOf?_eq_some.mpr ⟨hp, ?_⟩⟩
  cases hfile : t.file? p with
  | some => rfl
  | none =>
    simp only [hfile] at hread
    split at hread <;> cases hread

/-- The pieces of a name, followed to the last one. -/
theorem follow_append {t : FileTree} {p directory : Place} {pieces rest : List String}
    (h : t.follow p pieces = .ok directory) :
    t.follow p (pieces ++ rest) = t.follow directory rest := by
  induction pieces generalizing p with
  | nil => cases h; rfl
  | cons piece pieces ih =>
    rw [follow] at h
    obtain ⟨hthere, hdirectory, h⟩ := exists_of_bind_eq_ok h
    rw [List.cons_append, follow, hdirectory]
    split at h
    · cases h
    · next hlong =>
      rw [if_neg hlong]
      exact ih h

/-- What has to hold where a file can be written: its name leads through a directory, and
from there its last piece goes one entry further. -/
theorem exists_of_target_eq_ok {t : FileTree} {name : String} {p : Place}
    (h : t.target name = .ok p) :
    checkName name = .ok () ∧ ∃ directory entry,
      t.follow (t.start name) (namePieces name).dropLast = .ok directory ∧
        t.expectDirectory directory = .ok () ∧ (namePieces name).getLast?.getD "" = entry ∧
        ¬longestEntry < entry.utf8ByteSize ∧ step directory entry = directory ++ [entry] ∧
        p = directory ++ [entry] := by
  rw [target] at h
  obtain ⟨_, hname, h⟩ := exists_of_bind_eq_ok h
  split at h
  · cases h
  obtain ⟨directory, hfollow, h⟩ := exists_of_bind_eq_ok h
  obtain ⟨_, hdirectory, h⟩ := exists_of_bind_eq_ok h
  dsimp only at h
  split at h
  · cases h
  next hlong =>
  split at h
  · cases h
  next hentry =>
  rw [Bool.or_eq_true, not_or, bne_iff_ne, not_not] at hentry
  cases h
  exact ⟨hname, directory, _, hfollow, hdirectory, rfl, hlong, hentry.1, rfl⟩

/-- A file is written where its name leads. -/
theorem locate_of_target {t : FileTree} {name : String} {p : Place} (h : t.target name = .ok p) :
    t.locate name = .ok p := by
  obtain ⟨hname, directory, entry, hfollow, hdirectory, hlast, hlong, hstep, rfl⟩ :=
    exists_of_target_eq_ok h
  -- an empty last piece would stay in the directory
  have hne : entry ≠ "" := by
    rintro rfl
    simp [step] at hstep
  have hpieces : namePieces name = (namePieces name).dropLast ++ [entry] := by
    cases hp : (namePieces name).getLast? with
    | none =>
      rw [hp] at hlast
      exact absurd hlast.symm hne
    | some last =>
      rw [hp] at hlast
      obtain rfl : last = entry := hlast
      exact (List.dropLast_append_getLast? last hp).symm
  rw [locate, hname, hpieces]
  show t.follow (t.start name) _ = _
  rw [follow_append hfollow, follow, hdirectory, if_neg hlong, hstep]
  rfl

end FileTree

/-! ## One file -/

namespace RuleSet

variable {s : RuleSet} {t u v : FileTree} {name text : String} {forms : List Datum}

/-- What the rules make of forms, of each by itself. -/
def rewrite (s : RuleSet) (forms : List Datum) : List Datum := forms.map fun d => (s.apply d).2

/-- Behind a batch a name is settled if it leads to a file that could be read and that is
whole: as it was if rewriting does not change the rendering of its forms, and else the
rendering of the forms rewritten. -/
def Settles (s : RuleSet) (t u : FileTree) (name : String) : Prop :=
  ∃ p text forms, t.fileOf? name = some p ∧ t.readForms name = .ok (text, forms) ∧
    u.file? p = if renderForms (s.rewrite forms) = renderForms forms then t.file? p
      else some (renderForms (s.rewrite forms)).toUTF8

/-- What a batch that is done with some names has left: they are settled, and what they do
not lead to is untouched. -/
structure Leaves (s : RuleSet) (t u : FileTree) (done : List String) : Prop where
  sameEntries : t.SameEntries u
  settled : ∀ name ∈ done, s.Settles t u name
  untouched : ∀ p, (∀ name ∈ done, t.fileOf? name ≠ some p) → u.file? p = t.file? p

theorem Leaves.nil : s.Leaves t t [] := ⟨.refl t, (fun _ h => nomatch h), fun _ _ => rfl⟩

/-- A file is written if rewriting changes the rendering of its forms. -/
theorem store_applyToForms (s : RuleSet) (t : FileTree) (name : String) (forms : List Datum) :
    t.store false (s.applyToForms name forms) =
      if renderForms (s.rewrite forms) = renderForms forms then .ok t
      else (t.write name (renderForms (s.rewrite forms))).mapError (.io name) := by
  have hafter : (s.applyToForms name forms).after = renderForms (s.rewrite forms) := by
    rw [applyToForms, rewrite, List.map_map]
    rfl
  rw [FileTree.store, FileResult.isChanged, hafter, Bool.not_false, Bool.and_true, bne]
  simp only [Bool.not_eq_true', beq_eq_false_iff_ne, ite_not]
  rfl

/-- The step of a batch: a file that is read and stored is settled, and no other is touched. -/
theorem leaves_of_store (hread : t.readForms name = .ok (text, forms))
    (hstore : t.store false (s.applyToForms name forms) = .ok u) : s.Leaves t u [name] := by
  obtain ⟨p, hp⟩ := FileTree.exists_fileOf?_of_readForms hread
  obtain ⟨hlocate, hfile⟩ := FileTree.fileOf?_eq_some.mp hp
  rw [store_applyToForms] at hstore
  split at hstore
  · next hsame =>
    cases hstore
    refine ⟨.refl t, ?_, fun _ _ => rfl⟩
    rintro _ (_ | ⟨_, ⟨⟩⟩)
    exact ⟨p, text, forms, hp, hread, (if_pos hsame).symm⟩
  · next hdiffers =>
    replace hstore := eq_ok_of_mapError hstore
    rw [FileTree.write] at hstore
    obtain ⟨q, htarget, hput⟩ := exists_of_bind_eq_ok hstore
    cases hput
    obtain rfl : q = p := by
      have hq := FileTree.locate_of_target htarget
      have hqp := hq.symm.trans hlocate
      exact Except.ok.inj hqp
    refine ⟨.put hfile _, ?_, ?_⟩
    · rintro _ (_ | ⟨_, ⟨⟩⟩)
      refine ⟨q, text, forms, hp, hread, ?_⟩
      rw [FileTree.file?_put, if_pos rfl, if_neg hdiffers]
    · intro p' hp'
      rw [FileTree.file?_put, if_neg]
      rintro rfl
      exact hp' name List.mem_cons_self hp

/-- A batch goes on where a name has been done, which no later name leads back to. -/
theorem Leaves.cons {done : List String} (hfirst : s.Leaves t u [name])
    (hrest : s.Leaves u v done)
    (hapart : ∀ p, t.fileOf? name = some p → ∀ other ∈ done, t.fileOf? other ≠ some p) :
    s.Leaves t v (name :: done) where
  sameEntries := hfirst.sameEntries.trans hrest.sameEntries
  settled other hother := by
    rcases List.mem_cons.mp hother with rfl | hmem
    · obtain ⟨p, text, forms, hp, hread, hfile⟩ := hfirst.settled other List.mem_cons_self
      refine ⟨p, text, forms, hp, hread, ?_⟩
      rw [← hfile]
      refine hrest.untouched p fun later hlater => ?_
      rw [hfirst.sameEntries.fileOf?]
      exact hapart p hp later hlater
    · obtain ⟨p, text, forms, hp, hread, hfile⟩ := hrest.settled other hmem
      rw [hfirst.sameEntries.fileOf?] at hp
      have hkept : ∀ q, t.fileOf? other = some q → u.file? q = t.file? q := by
        intro q hq
        refine hfirst.untouched q fun first hfirst' => ?_
        rw [List.mem_singleton.mp hfirst']
        exact fun hname => hapart q hname other hmem hq
      rw [hfirst.sameEntries.readForms hkept] at hread
      rw [hkept p hp] at hfile
      exact ⟨p, text, forms, hp, hread, hfile⟩
  untouched p hp := by
    rw [hrest.untouched p, hfirst.untouched p]
    · rintro _ (_ | ⟨_, ⟨⟩⟩)
      exact hp name List.mem_cons_self
    · intro other hother
      rw [hfirst.sameEntries.fileOf?]
      exact hp other (List.mem_cons_of_mem _ hother)

end RuleSet

/-! ## Many files -/

/-- The errors that end a batch at a name: what is there cannot be read, or it has to be
rewritten and nothing can be written there. -/
inductive RuleSet.Refuses (s : RuleSet) (t : FileTree) (name : String) : FileError → Prop
  | unread {e : FileError} : t.readForms name = .error e → s.Refuses t name e
  | unwritten {text : String} {forms : List Datum} {fault : FileFault} :
    t.readForms name = .ok (text, forms) →
    renderForms (s.rewrite forms) ≠ renderForms forms →
    t.target name = .error fault → s.Refuses t name (.io name fault)

namespace RuleSet

variable {s : RuleSet} {t u : FileTree} {name text : String} {forms : List Datum} {e : FileError}

/-- A file that was not touched refuses as before. -/
theorem Refuses.of_sameEntries (h : s.Refuses u name e) (hentries : t.SameEntries u)
    (hcontent : ∀ p, t.fileOf? name = some p → u.file? p = t.file? p) : s.Refuses t name e := by
  have hread := hentries.readForms hcontent
  cases h with
  | unread h => exact .unread (hread ▸ h)
  | unwritten h hdiffers htarget =>
    exact .unwritten (hread ▸ h) hdiffers (hentries.target name ▸ htarget)

/-- A file that was read and cannot be stored refuses. -/
theorem refuses_of_store (hread : t.readForms name = .ok (text, forms))
    (hstore : t.store false (s.applyToForms name forms) = .error e) : s.Refuses t name e := by
  rw [store_applyToForms] at hstore
  split at hstore
  · cases hstore
  · next hdiffers =>
    rw [FileTree.write] at hstore
    cases htarget : t.target name with
    | ok =>
      rw [htarget] at hstore
      cases hstore
    | error fault =>
      rw [htarget] at hstore
      cases hstore
      exact .unwritten hread hdiffers htarget

/-- A batch settles the names up to one that refuses and leaves everything else as it is. -/
theorem leaves_applyToFiles (s : RuleSet) (t : FileTree) (names : List String)
    (h : t.NamesApart names) :
    ∃ done rest, names = done ++ rest ∧ s.Leaves t (s.applyToFiles false t names).tree done ∧
      ((s.applyToFiles false t names).failure = none ∧ rest = [] ∨
        ∃ name later e, rest = name :: later ∧
          (s.applyToFiles false t names).failure = some e ∧ s.Refuses t name e) := by
  induction names generalizing t with
  | nil => exact ⟨[], [], rfl, .nil, .inl ⟨rfl, rfl⟩⟩
  | cons name names ih =>
    rw [applyToFiles]
    cases hread : t.readForms name with
    | error e =>
      exact ⟨[], name :: names, rfl, .nil, .inr ⟨name, names, e, rfl, rfl, .unread hread⟩⟩
    | ok result =>
      obtain ⟨text, forms⟩ := result
      dsimp only
      cases hstore : t.store false (s.applyToForms name forms) with
      | error e =>
        exact ⟨[], name :: names, rfl, .nil,
          .inr ⟨name, names, e, rfl, rfl, refuses_of_store hread hstore⟩⟩
      | ok u =>
        have hstep := leaves_of_store hread hstore
        replace h : t.NamesApart ([name] ++ names) := h
        obtain ⟨done, rest, rfl, hrest, hend⟩ :=
          ih u ((hstep.sameEntries.namesApart names).mpr h.of_append)
        have hfirst : ∀ p, t.fileOf? name = some p →
            ∀ other ∈ done ++ rest, t.fileOf? other ≠ some p :=
          fun p hp other hother => h.fileOf?_ne List.mem_cons_self hother hp
        have hkept : ∀ other ∈ done ++ rest, ∀ p, t.fileOf? other = some p →
            u.file? p = t.file? p := by
          intro other hother p hp
          refine hstep.untouched p fun first hmem hname => ?_
          rw [List.mem_singleton.mp hmem] at hname
          exact hfirst p hname other hother hp
        refine ⟨name :: done, rest, rfl, hstep.cons hrest fun p hp other hother =>
          hfirst p hp other (List.mem_append_left _ hother), ?_⟩
        rcases hend with ⟨hnone, hnil⟩ | ⟨bad, later, e, rfl, hsome, hrefuses⟩
        · exact .inl ⟨hnone, hnil⟩
        · refine .inr ⟨bad, later, e, rfl, hsome, hrefuses.of_sameEntries hstep.sameEntries ?_⟩
          exact hkept bad (List.mem_append_right _ List.mem_cons_self)

/-- A dry run leaves everything as it is. -/
theorem applyToFiles_dry_tree (s : RuleSet) (t : FileTree) (names : List String) :
    (s.applyToFiles true t names).tree = t := by
  induction names with
  | nil => rfl
  | cons name names ih =>
    rw [applyToFiles]
    cases t.readForms name with
    | error => rfl
    | ok result =>
      have hstore : t.store true (s.applyToForms name result.2) = .ok t := by
        simp [FileTree.store]
      simpa only [hstore] using ih

end RuleSet

/-! ## The command -/

namespace Command

/-- Without rules nothing is done to the files. -/
theorem apply_of_readRules_eq_error {t : FileTree} {rules : String} {e : RuleFileError}
    (hrules : t.readRules rules = .error e) (paths : List String) (dryRun withDiff : Bool) :
    (apply t rules paths dryRun withDiff).tree = t := by
  rw [apply, hrules]
  dsimp only
  split
  · rfl
  · rfl
  · next heq => cases heq

/-- With rules that can be read, the files are those of the batch, and the report tells how
the batch has ended. -/
theorem apply_of_readRules {t : FileTree} {rules : String} {s : RuleSet}
    (hrules : t.readRules rules = .ok s) (paths : List String) (dryRun withDiff : Bool) :
    let batch := s.applyToFiles dryRun t (t.dataFiles paths)
    let report := apply t rules paths dryRun withDiff
    report.tree = batch.tree ∧
      (batch.failure = none ∧ report.code = (if batch.tally.failed = 0 then 0 else 1) ∨
        ∃ e out err, batch.failure = some e ∧ report = failed out err (.file e) batch.tree) := by
  intro batch
  rw [apply, hrules]
  dsimp only
  cases (s.applyToFiles dryRun t (t.dataFiles paths)).failure with
  | none => exact ⟨rfl, .inl ⟨rfl, rfl⟩⟩
  | some e => exact ⟨rfl, .inr ⟨e, _, _, rfl, rfl⟩⟩

/-- Whatever ends it, applying a rule file leaves every file whole. Without rules, and in a
dry run, nothing changes. Else the data files up to one that refuses are settled; that one,
those behind it and every file that is none of the data files are as they were. What the
rules say of their own failures does not matter to that, only to the exit code. -/
theorem apply_keeps_files_whole (t : FileTree) (rules : String) (paths : List String)
    (dryRun withDiff : Bool) (h : t.NamesApart (t.dataFiles paths)) :
    let report := apply t rules paths dryRun withDiff
    (dryRun = true → report.tree = t) ∧
    (∀ e, t.readRules rules = .error e → report.tree = t) ∧
    ∀ s, t.readRules rules = .ok s → dryRun = false →
      ∃ done rest, t.dataFiles paths = done ++ rest ∧
        (rest = [] ∧ report.code = (if
            (s.applyToFiles false t (t.dataFiles paths)).tally.failed = 0 then 0 else 1) ∨
          ∃ name later e, rest = name :: later ∧ s.Refuses t name e ∧
            ∃ out err, report = failed out err (.file e) report.tree) ∧
        t.SameEntries report.tree ∧
        (∀ name ∈ done, s.Settles t report.tree name) ∧
        (∀ name ∈ rest, ∀ p, t.locate name = .ok p → report.tree.file? p = t.file? p) ∧
        ∀ p, (∀ name ∈ t.dataFiles paths, t.locate name ≠ .ok p) →
          report.tree.file? p = t.file? p := by
  intro report
  refine ⟨?_, fun e hrules => apply_of_readRules_eq_error hrules paths dryRun withDiff, ?_⟩
  · rintro rfl
    cases hrules : t.readRules rules with
    | error e => exact apply_of_readRules_eq_error hrules paths true withDiff
    | ok s =>
      obtain ⟨htree, -⟩ := apply_of_readRules hrules paths true withDiff
      exact htree.trans (s.applyToFiles_dry_tree t (t.dataFiles paths))
  · rintro s hrules rfl
    obtain ⟨htree, hreport⟩ := apply_of_readRules hrules paths false withDiff
    obtain ⟨done, rest, hnames, hleaves, hend⟩ := s.leaves_applyToFiles t (t.dataFiles paths) h
    rw [← htree] at hleaves
    refine ⟨done, rest, hnames, ?_, hleaves.sameEntries, hleaves.settled, ?_, ?_⟩
    · rcases hreport with ⟨hnone, hcode⟩ | ⟨e, out, err, hsome, hreport⟩
      · rcases hend with ⟨-, hnil⟩ | ⟨_, _, _, -, hsome, -⟩
        · exact .inl ⟨hnil, hcode⟩
        · cases hnone.symm.trans hsome
      · rcases hend with ⟨hnone, -⟩ | ⟨name, later, e', hrest, hsome', hrefuses⟩
        · cases hnone.symm.trans hsome
        · cases hsome.symm.trans hsome'
          exact .inr ⟨name, later, e, hrest, hrefuses, out, err, htree ▸ hreport⟩
    · intro name hname p hp
      refine hleaves.untouched p fun other hother hfile => ?_
      rw [hnames] at h
      exact h.fileOf?_ne hother hname hfile
        (FileTree.fileOf?_eq_some.mpr ⟨hp, (FileTree.fileOf?_eq_some.mp hfile).2⟩)
    · intro p hp
      refine hleaves.untouched p fun name hname hfile => ?_
      exact hp name (hnames ▸ List.mem_append_left _ hname) (FileTree.fileOf?_eq_some.mp hfile).1

/-- A rule file, and data files that its rule changes, does not change, cannot be applied
to and does not reach. -/
def sampleTree : FileTree where
  directories := []
  files := [
    (["rules.toml"], "[[rules]]\nid='minus'\naction=['rename','sub','minus']\n".toUTF8),
    (["a.sexp"], "(sub\n a)".toUTF8),
    (["b.sexp"], "(add\n a)".toUTF8),
    (["c.sexp"], "(sub a".toUTF8),
    (["d.sexp"], "(sub a)".toUTF8)]
  workingDirectory := []

/-- The run over the sample ends at the list that is not closed: one file before it has a
new content, the other one its old layout. -/
theorem apply_keeps_files_whole_sample :
    let report := apply sampleTree "rules.toml" ["."] false false
    sampleTree.NamesApart (sampleTree.dataFiles ["."]) ∧
      (∃ s done rest, sampleTree.readRules "rules.toml" = .ok s ∧
        sampleTree.dataFiles ["."] = done ++ rest ∧
        (∀ name ∈ done, s.Settles sampleTree report.tree name) ∧
        ∀ name ∈ rest, ∀ p, sampleTree.locate name = .ok p →
          report.tree.file? p = sampleTree.file? p) ∧
      report.tree.files =
        FileTree.putIn ["a.sexp"] "(minus a)\n".toUTF8 sampleTree.files := by
  intro report
  have happart : sampleTree.NamesApart (sampleTree.dataFiles ["."]) := by decide +kernel
  have hread : (sampleTree.readRules "rules.toml").toOption.isSome := by decide +kernel
  refine ⟨happart, ?_, by decide +kernel⟩
  cases hrules : sampleTree.readRules "rules.toml" with
  | error => rw [hrules] at hread; cases hread
  | ok s =>
    obtain ⟨-, -, hrun⟩ := apply_keeps_files_whole sampleTree "rules.toml" ["."] false false happart
    obtain ⟨done, rest, hnames, -, -, hsettled, hrest, -⟩ := hrun s hrules rfl
    exact ⟨s, done, rest, rfl, hnames, hsettled, hrest⟩

end Command
end SexprQuery
