import Mathlib.Data.List.Destutter
import Mathlib.Data.List.Sort
import SexprQuery.Proofs.FileNames

/-!
# What a list of data files holds

`FileTree.dataFiles` puts every name into its place while the list grows. The list is the one
that a stable sort of all names leaves when a name is dropped wherever the one in front of it
has the same parts (`sortNames_eq_destutter`). For both lists increase, and among the names of
the same parts both keep the one that came first (`mem_sortNames`, `mem_destutter'`).

What the list holds is said by the arguments one by one (`FileTree.exists_mem_dataFiles`): an
argument that leads to no directory is there as it is, and a directory gives the files below it
with the extension of data files. `extension?` is what stands behind the last dot of an entry's
name, so that a name which is nothing but a dot and an extension has none. How often an argument
is given, and where among the others, makes no difference to the parts of the names.
-/

namespace SexprQuery

/-! ## Lists of parts -/

-- the library has this for parts whose order is declared to be linear
theorem NamePart.list_le_trans {us vs ws : List NamePart} (huv : us ≤ vs) (hvw : vs ≤ ws) :
    us ≤ ws := by
  intro hwu
  by_cases hlt : us < vs
  · exact hvw (List.lt_trans hwu hlt)
  · have heq : us = vs := List.le_antisymm huv (List.not_lt.mp hlt)
    exact hvw (heq ▸ hwu)

theorem NamePart.list_lt_of_lt_of_le {us vs ws : List NamePart} (huv : us < vs) (hvw : vs ≤ ws) :
    us < ws := by
  by_contra hnlt
  exact list_le_trans hvw (List.not_lt.mp hnlt) huv

/-! ## The names that stay -/

/-- A name comes into a list unless one of the same parts is there. -/
theorem mem_insertName {name a : String} {names : List String}
    (h : names.Pairwise fun a b => nameParts a < nameParts b) :
    a ∈ insertName name names ↔
      a ∈ names ∨ a = name ∧ ∀ b ∈ names, nameParts b ≠ nameParts name := by
  induction names with
  | nil => simp [insertName]
  | cons first rest ih =>
    obtain ⟨hfirst, hrest⟩ := List.pairwise_cons.mp h
    rw [insertName]
    split
    · next hlt =>
      have hfresh : ∀ b ∈ first :: rest, nameParts b ≠ nameParts name := by
        intro b hb heq
        rcases List.mem_cons.mp hb with rfl | hb
        · exact List.lt_irrefl _ (heq ▸ hlt)
        · exact List.lt_irrefl _ (heq ▸ List.lt_trans hlt (hfirst b hb))
      rw [List.mem_cons, and_iff_left hfresh, or_comm]
    · split
      · next hsame =>
        refine (or_iff_left ?_).symm
        rintro ⟨-, hfresh⟩
        exact hfresh first List.mem_cons_self hsame.symm
      · next hne =>
        rw [List.mem_cons, ih hrest, List.mem_cons, List.forall_mem_cons, or_assoc,
          and_iff_right (Ne.symm hne)]

theorem sortNames_append_singleton (names : List String) (name : String) :
    sortNames (names ++ [name]) = insertName name (sortNames names) := by
  rw [sortNames, List.foldl_append]
  rfl

/-- Sorting keeps the first of the names with the same parts. -/
theorem mem_sortNames {a : String} {names : List String} :
    a ∈ sortNames names ↔ names.find? (fun b => nameParts b = nameParts a) = some a := by
  induction names using List.reverseRecOn with
  | nil => exact ⟨fun h => (nomatch h), fun h => (nomatch h)⟩
  | append_singleton names name ih =>
    have hfresh : (∀ b ∈ sortNames names, nameParts b ≠ nameParts name) ↔
        ∀ b ∈ names, nameParts b ≠ nameParts name := by
      have hlost := not_congr (exists_mem_sortNames names (nameParts name))
      push Not at hlost
      exact hlost
    rw [sortNames_append_singleton, mem_insertName (sortNames_pairwise names), ih, hfresh,
      List.find?_append, Option.or_eq_some_iff]
    refine or_congr_right ⟨?_, ?_⟩
    · rintro ⟨rfl, hnames⟩
      exact ⟨by simpa using hnames, by simp⟩
    · rintro ⟨hnone, hname⟩
      obtain rfl := List.mem_singleton.mp (List.mem_of_find?_eq_some hname)
      exact ⟨rfl, by simpa using hnone⟩

/-! ## Dropping repetitions after sorting -/

/-- If the second of sorted names has other parts than the first, so has every later one. -/
theorem nameParts_lt_of_second_ne {first second : String} {rest : List String}
    (h : (first :: second :: rest).Pairwise fun a b => nameParts a ≤ nameParts b)
    (hne : nameParts first ≠ nameParts second) :
    ∀ b ∈ second :: rest, nameParts first < nameParts b := by
  obtain ⟨hfirst, hrest⟩ := List.pairwise_cons.mp h
  have hlt : nameParts first < nameParts second := by
    by_contra hnlt
    exact hne (List.le_antisymm (hfirst second List.mem_cons_self) (List.not_lt.mp hnlt))
  intro b hb
  rcases List.mem_cons.mp hb with rfl | hb
  · exact hlt
  · exact NamePart.list_lt_of_lt_of_le hlt ((List.pairwise_cons.mp hrest).1 b hb)

/-- Sorted names increase once a name is dropped wherever the one in front of it has the same
parts. -/
theorem destutter'_pairwise {first : String} {rest : List String}
    (h : (first :: rest).Pairwise fun a b => nameParts a ≤ nameParts b) :
    (rest.destutter' (fun a b => nameParts a ≠ nameParts b) first).Pairwise
      fun a b => nameParts a < nameParts b := by
  induction rest generalizing first with
  | nil => exact List.pairwise_singleton _ first
  | cons second rest ih =>
    by_cases hsame : nameParts first = nameParts second
    · rw [List.destutter'_cons_neg _ (not_not.mpr hsame)]
      exact ih (h.sublist ((List.sublist_cons_self second rest).cons_cons first))
    · rw [List.destutter'_cons_pos _ hsame]
      refine List.pairwise_cons.mpr ⟨?_, ih h.of_cons⟩
      intro b hb
      exact nameParts_lt_of_second_ne h hsame b ((List.destutter'_sublist rest _ second).subset hb)

/-- And the first of the names with the same parts stays. -/
theorem mem_destutter' {a first : String} {rest : List String}
    (h : (first :: rest).Pairwise fun a b => nameParts a ≤ nameParts b) :
    a ∈ rest.destutter' (fun a b => nameParts a ≠ nameParts b) first ↔
      (first :: rest).find? (fun b => nameParts b = nameParts a) = some a := by
  induction rest generalizing first with
  | nil =>
    rw [List.destutter'_nil, List.mem_singleton]
    refine ⟨?_, fun hfound => List.mem_singleton.mp (List.mem_of_find?_eq_some hfound)⟩
    rintro rfl
    exact List.find?_cons_of_pos (by simp)
  | cons second rest ih =>
    by_cases hsame : nameParts first = nameParts second
    · rw [List.destutter'_cons_neg _ (not_not.mpr hsame),
        ih (h.sublist ((List.sublist_cons_self second rest).cons_cons first))]
      simp only [List.find?_cons, hsame]
      cases decide (nameParts second = nameParts a) <;> rfl
    · rw [List.destutter'_cons_pos _ hsame, List.mem_cons, ih h.of_cons]
      by_cases hfirst : nameParts first = nameParts a
      · -- the names behind `first` come later, so none of them has its parts
        have hnone : (second :: rest).find? (fun b => nameParts b = nameParts a) = none := by
          refine List.find?_eq_none.mpr fun b hb heq => ?_
          have hlt := nameParts_lt_of_second_ne h hsame b hb
          rw [hfirst, of_decide_eq_true heq] at hlt
          exact List.lt_irrefl _ hlt
        rw [hnone, List.find?_cons_of_pos (by simpa using hfirst)]
        simp [eq_comm]
      · have hskip : (first :: second :: rest).find? (fun b => nameParts b = nameParts a) =
            (second :: rest).find? fun b => nameParts b = nameParts a :=
          List.find?_cons_of_neg (by simpa using hfirst)
        rw [hskip]
        refine or_iff_right ?_
        rintro rfl
        exact hfirst rfl

theorem nameParts_le_trans (a b c : String) (hab : decide (nameParts a ≤ nameParts b) = true)
    (hbc : decide (nameParts b ≤ nameParts c) = true) :
    decide (nameParts a ≤ nameParts c) = true :=
  decide_eq_true (NamePart.list_le_trans (of_decide_eq_true hab) (of_decide_eq_true hbc))

theorem nameParts_le_total (a b : String) :
    (decide (nameParts a ≤ nameParts b) || decide (nameParts b ≤ nameParts a)) = true := by
  simpa using List.le_total (nameParts a) (nameParts b)

/-- A stable sort leaves the names with the same parts in their order. -/
theorem find?_mergeSort (names : List String) (parts : List NamePart) :
    (names.mergeSort fun a b => nameParts a ≤ nameParts b).find? (fun b => nameParts b = parts) =
      names.find? fun b => nameParts b = parts := by
  have halike : (names.filter fun b => nameParts b = parts).Pairwise
      fun a b => decide (nameParts a ≤ nameParts b) := by
    refine List.pairwise_of_forall_mem_list fun a ha b hb => ?_
    have heq : nameParts a = nameParts b :=
      (of_decide_eq_true (List.mem_filter.mp ha).2).trans
        (of_decide_eq_true (List.mem_filter.mp hb).2).symm
    simp [heq]
  -- so they are a part of the sorted names, and no others of these have the parts
  have hstay := (List.sublist_mergeSort nameParts_le_trans nameParts_le_total halike
    List.filter_sublist).filter fun b => nameParts b = parts
  have hlength := ((List.mergeSort_perm names fun a b => nameParts a ≤ nameParts b).filter
    fun b => nameParts b = parts).length_eq
  simp only [List.filter_filter, Bool.and_self] at hstay
  rw [← List.head?_filter, ← List.head?_filter, hstay.eq_of_length hlength.symm]

/-- Sorted names are what a stable sort leaves without the repetitions. -/
theorem sortNames_eq_destutter (names : List String) :
    sortNames names = (names.mergeSort fun a b => nameParts a ≤ nameParts b).destutter
      fun a b => nameParts a ≠ nameParts b := by
  have hsorted : (names.mergeSort fun a b => nameParts a ≤ nameParts b).Pairwise
      fun a b => nameParts a ≤ nameParts b :=
    (List.pairwise_mergeSort nameParts_le_trans nameParts_le_total names).imp of_decide_eq_true
  have hfirst := find?_mergeSort names
  cases hsort : names.mergeSort fun a b => nameParts a ≤ nameParts b with
  | nil =>
    obtain rfl : names = [] := List.Perm.eq_nil (hsort ▸ (List.mergeSort_perm names _).symm)
    rfl
  | cons first rest =>
    rw [hsort] at hsorted hfirst
    rw [List.destutter_cons']
    refine (sortNames_pairwise names).eq_of_mem_iff (destutter'_pairwise hsorted) fun a => ?_
    rw [mem_sortNames, mem_destutter' hsorted, hfirst]

/-! ## Extensions -/

/-- The extension of an entry's name: what is behind its last dot, if there is anything in front
of that dot. The name of the directory above has none. -/
def extension? (entry : String) : Option String :=
  let letters := entry.toList.reverse
  if entry = ".." then none
  else
    match letters.dropWhile (· != '.') with
    | _ :: _ :: _ => some (String.ofList (letters.takeWhile (· != '.')).reverse)
    | _ => none

example : ["a.sexp", ".sexp", "a.b.sexp", "..sexp", "a.sexp.", "sexp"].map extension? =
    [some "sexp", none, some "sexp", some "sexp", some "", none] := by
  decide +kernel

/-- An entry's name is something, a dot and the extension, which has no dot. -/
theorem extension?_eq_some {entry extension : String} :
    extension? entry = some extension ↔ entry ≠ ".." ∧ '.' ∉ extension.toList ∧
      ∃ front, front ≠ [] ∧ entry.toList = front ++ '.' :: extension.toList := by
  constructor
  · intro h
    rw [extension?] at h
    split at h
    · cases h
    · next hne =>
      have hletters := List.takeWhile_append_dropWhile (p := (· != '.')) (l := entry.toList.reverse)
      have hdot := List.head?_dropWhile_not (· != '.') entry.toList.reverse
      split at h
      · next dot c front hbehind =>
        cases h
        rw [hbehind] at hletters hdot
        obtain rfl : dot = '.' := by simpa using hdot
        rw [String.toList_ofList]
        refine ⟨hne, fun hmem => ?_, (c :: front).reverse, by simp, ?_⟩
        · simpa using List.all_eq_true.mp List.all_takeWhile _ (List.mem_reverse.mp hmem)
        · refine List.reverse_injective (hletters.symm.trans ?_)
          simp
      · cases h
  · rintro ⟨hne, hdot, front, hfront, hentry⟩
    have hno : ∀ c ∈ extension.toList.reverse, (c != '.') = true := by
      intro c hc
      simpa using fun heq : c = '.' => hdot (heq ▸ List.mem_reverse.mp hc)
    obtain ⟨c, us, hus⟩ := List.exists_cons_of_ne_nil (List.reverse_ne_nil_iff.mpr hfront)
    have hletters : entry.toList.reverse = extension.toList.reverse ++ '.' :: c :: us := by
      rw [hentry, List.reverse_append, List.reverse_cons, hus, List.append_assoc]
      rfl
    rw [extension?, if_neg hne, hletters, List.dropWhile_append_of_pos hno,
      List.takeWhile_append_of_pos hno]
    simp

/-- Data files are those with the extension. -/
theorem isDataName_iff {entry : String} :
    isDataName entry = true ↔ extension? entry = some "sexp" := by
  rw [isDataName, Bool.and_eq_true, List.isSuffixOf_iff_suffix, decide_eq_true_iff,
    extension?_eq_some, ← String.length_toList, ← String.length_toList]
  constructor
  · rintro ⟨⟨front, hentry⟩, hlong⟩
    refine ⟨?_, by decide, front, ?_, hentry.symm⟩
    · rintro rfl
      exact absurd hlong (by decide)
    · rintro rfl
      exact absurd (congrArg List.length hentry) hlong.ne
  · rintro ⟨-, -, front, hfront, hentry⟩
    refine ⟨⟨front, hentry.symm⟩, ?_⟩
    rw [hentry, List.length_append]
    exact Nat.lt_add_of_pos_left (List.length_pos_iff.mpr hfront)

namespace FileTree

/-! ## What the list holds -/

/-- The place of the directory that a name leads to. -/
def directoryOf? (t : FileTree) (name : String) : Option Place :=
  (t.locate name).toOption.filter fun p => t.isDirectory p

theorem directoryOf?_eq_some {t : FileTree} {name : String} {p : Place} :
    t.directoryOf? name = some p ↔ t.locate name = .ok p ∧ t.isDirectory p = true := by
  rw [directoryOf?]
  cases t.locate name with
  | error => simp [Except.toOption]
  | ok q =>
    simp only [Except.toOption, Option.filter_eq_some_iff, Option.some.injEq, Except.ok.injEq]

theorem expand_eq (t : FileTree) (argument : String) :
    t.expand argument = match t.directoryOf? argument with
      | none => [argument]
      | some p => ((t.filesBelow p).filter fun below => isDataName (below.getLast?.getD "")).map
          fun below => below.foldl joinName argument := by
  rw [expand, directoryOf?]
  cases t.locate argument with
  | error => rfl
  | ok p =>
    cases hdir : t.isDirectory p <;> simp [Except.toOption, Option.filter, hdir]

/-- The files below a place are those whose places it begins. -/
theorem mem_filesBelow {t : FileTree} {p below : Place} :
    below ∈ t.filesBelow p ↔ (t.file? (p ++ below)).isSome := by
  rw [filesBelow, List.mem_filterMap, file?, Option.isSome_map, List.find?_isSome]
  refine exists_congr fun f => and_congr_right fun _ => ?_
  rw [decide_eq_true_iff]
  constructor
  · intro h
    split at h
    · next hbegins =>
      cases h
      exact (List.prefix_iff_eq_append.mp (List.isPrefixOf_iff_prefix.mp hbegins)).symm
    · cases h
  · intro h
    rw [h, if_pos (List.isPrefixOf_iff_prefix.mpr (List.prefix_append p below)),
      List.drop_left]

/-- The names that a directory stands for. -/
theorem mem_expand_of_directory {t : FileTree} {argument name : String} {p : Place}
    (h : t.directoryOf? argument = some p) :
    name ∈ t.expand argument ↔ ∃ below, (t.file? (p ++ below)).isSome ∧
      below.getLast?.bind extension? = some "sexp" ∧ below.foldl joinName argument = name := by
  rw [expand_eq, h]
  simp only [List.mem_map, List.mem_filter, mem_filesBelow, and_assoc]
  refine exists_congr fun below => and_congr_right fun _ => and_congr_left fun _ => ?_
  cases below.getLast? with
  | none => decide
  | some entry => exact isDataName_iff

/-- The parts of a file's name found below a directory. -/
theorem nameParts_of_below {t : FileTree} (ht : t.HasEntryNames) {argument : String}
    {p below : Place} (hdirectory : t.directoryOf? argument = some p)
    (hfile : (t.file? (p ++ below)).isSome) :
    nameParts (below.foldl joinName argument) = nameParts argument ++ below.map .entry := by
  have hargument : argument ≠ "" := by
    rintro rfl
    cases (directoryOf?_eq_some.mp hdirectory).1
  rw [file?, Option.isSome_map, List.find?_isSome] at hfile
  obtain ⟨f, hf, hplace⟩ := hfile
  have hentries : ∀ entry ∈ below, IsEntryName entry := fun entry hentry =>
    ht f hf entry (of_decide_eq_true hplace ▸ List.mem_append_right p hentry)
  exact (nameParts_foldl_joinName hargument hentries).2

/-- A name in the list, by its parts: an argument that leads to no directory, or the name of a
directory and the way from there down to a data file. -/
theorem exists_mem_dataFiles {t : FileTree} (ht : t.HasEntryNames) (arguments : List String)
    (parts : List NamePart) :
    (∃ a ∈ t.dataFiles arguments, nameParts a = parts) ↔
      (∃ a ∈ arguments, t.directoryOf? a = none ∧ nameParts a = parts) ∨
      ∃ a ∈ arguments, ∃ p below, t.directoryOf? a = some p ∧ (t.file? (p ++ below)).isSome ∧
        below.getLast?.bind extension? = some "sexp" ∧
        nameParts a ++ below.map .entry = parts := by
  rw [dataFiles, exists_mem_sortNames]
  constructor
  · rintro ⟨name, hname, rfl⟩
    obtain ⟨a, ha, hname⟩ := List.mem_flatMap.mp hname
    cases hdirectory : t.directoryOf? a with
    | none =>
      rw [expand_eq, hdirectory] at hname
      obtain rfl := List.mem_singleton.mp hname
      exact .inl ⟨name, ha, hdirectory, rfl⟩
    | some p =>
      obtain ⟨below, hfile, hextension, rfl⟩ := (mem_expand_of_directory hdirectory).mp hname
      exact .inr ⟨a, ha, p, below, hdirectory, hfile, hextension,
        (nameParts_of_below ht hdirectory hfile).symm⟩
  · rintro (⟨a, ha, hdirectory, rfl⟩ | ⟨a, ha, p, below, hdirectory, hfile, hextension, rfl⟩)
    · refine ⟨a, List.mem_flatMap.mpr ⟨a, ha, ?_⟩, rfl⟩
      rw [expand_eq, hdirectory]
      exact List.mem_singleton_self a
    · exact ⟨below.foldl joinName a, List.mem_flatMap.mpr ⟨a, ha,
        (mem_expand_of_directory hdirectory).mpr ⟨below, hfile, hextension, rfl⟩⟩,
        nameParts_of_below ht hdirectory hfile⟩

/-- Arguments count by what they are, and neither by how often they are given nor by their
order. -/
theorem map_nameParts_dataFiles {t : FileTree} {arguments others : List String}
    (h : ∀ a, a ∈ others ↔ a ∈ arguments) :
    (t.dataFiles others).map nameParts = (t.dataFiles arguments).map nameParts := by
  have hincreasing : ∀ given, ((t.dataFiles given).map nameParts).Pairwise (· < ·) :=
    fun given => List.pairwise_map.mpr (sortNames_pairwise _)
  refine (hincreasing others).eq_of_mem_iff (hincreasing arguments) fun parts => ?_
  rw [List.mem_map, List.mem_map, dataFiles, dataFiles, exists_mem_sortNames,
    exists_mem_sortNames]
  simp only [List.mem_flatMap, h]

/-- **The list of data files.** For all files and directories and for all arguments, the list
increases, part by part. It is what a stable sort of the names that the arguments stand for
leaves when a name is dropped wherever the one in front of it has the same parts. The parts of
its names are those of the arguments that lead to no directory, whether anything is there or not
and whatever their extension, and those of the files below the arguments that lead to one, at
any depth, whose extension is exactly `sexp`, in every tree whose entries have names that entries
can have. So arguments in another order, or given more often, have a list of the same parts. -/
theorem dataFiles_of_arguments (t : FileTree) (arguments : List String) :
    let names := t.dataFiles arguments
    (names.Pairwise fun a b => nameParts a < nameParts b) ∧
    names = ((arguments.flatMap t.expand).mergeSort
        fun a b => nameParts a ≤ nameParts b).destutter (fun a b => nameParts a ≠ nameParts b) ∧
    (t.HasEntryNames → ∀ parts, (∃ a ∈ names, nameParts a = parts) ↔
      (∃ a ∈ arguments, t.directoryOf? a = none ∧ nameParts a = parts) ∨
      ∃ a ∈ arguments, ∃ p below, t.directoryOf? a = some p ∧ (t.file? (p ++ below)).isSome ∧
        below.getLast?.bind extension? = some "sexp" ∧
        nameParts a ++ below.map .entry = parts) ∧
    ∀ others, (∀ a, a ∈ others ↔ a ∈ arguments) →
      (t.dataFiles others).map nameParts = names.map nameParts :=
  ⟨sortNames_pairwise _, sortNames_eq_destutter _,
    fun ht parts => exists_mem_dataFiles ht arguments parts,
    fun _ h => map_nameParts_dataFiles h⟩

/-- A directory with a file of a name that is nothing but an extension, a file in it in another
spelling, a file of another extension and one that is not there. -/
theorem dataFiles_of_arguments_given_again :
    let t : FileTree := ⟨[], [(["d", "a.sexp"], "(a)".toUTF8), (["d", ".sexp"], "(b)".toUTF8),
      (["d", "e", "c.sexp"], "(c)".toUTF8), (["d", "notes.txt"], "(d)".toUTF8)], []⟩
    let arguments := ["none.sexp", "d/", "d//a.sexp", "d/notes.txt"]
    t.dataFiles arguments = ["d/a.sexp", "d/e/c.sexp", "d/notes.txt", "none.sexp"] ∧
      (∃ a ∈ t.dataFiles arguments, nameParts a = [.entry "d", .entry "e", .entry "c.sexp"]) ∧
      (t.dataFiles (arguments.reverse ++ arguments)).map nameParts =
        (t.dataFiles arguments).map nameParts := by
  intro t arguments
  have ht : t.HasEntryNames := by decide +kernel
  obtain ⟨-, -, hholds, hothers⟩ := t.dataFiles_of_arguments arguments
  refine ⟨by decide +kernel, (hholds ht _).mpr (.inr ?_), hothers _ (by simp)⟩
  exact ⟨"d/", by decide, ["d"], ["e", "c.sexp"], by decide +kernel⟩

end FileTree

end SexprQuery
