import Mathlib.Data.List.Nodup
import SexprQuery.Proofs.WholeFiles
import SexprQuery.Search.Report

/-!
# Lists of file names

`FileTree.dataFiles` sorts names by their parts and keeps one of each. So no two names of the
list have the same parts (`sortNames_pairwise`), and none is lost (`exists_mem_sortNames`).

Two names with different parts can still lead to one place: one from the root and the other
from the working directory, one with a dot in front, one through a directory and back. These
are all the ways (`FileTree.nameParts_eq_of_place_eq`). A name that is found below a directory
begins as the name of the directory does and goes back no more than that
(`FileTree.exists_of_mem_expand`), so it depends on the arguments alone whether a file is
listed twice.

That is so in a file tree, where a place is a file. A link gives a file a further place, which
no comparison of names can tell from another file; nothing is said of links here.
-/

namespace SexprQuery

/-! ## The order of names -/

namespace NamePart

theorem eq_of_rank_eq {a b : NamePart} (hrank : a.rank = b.rank) (htext : a.text = b.text) :
    a = b := by
  cases a <;> cases b <;> first | rfl | exact congrArg entry htext | cases hrank

instance : Std.Irrefl (α := NamePart) (· < ·) where
  irrefl a h := by
    rcases h with h | ⟨-, h⟩
    · exact Nat.lt_irrefl _ h
    · exact String.lt_irrefl _ h

instance : Trans (α := NamePart) (· < ·) (· < ·) (· < ·) where
  trans := by
    rintro a b c (hab | ⟨hab, htext⟩) (hbc | ⟨hbc, htext'⟩)
    · exact .inl (hab.trans hbc)
    · exact .inl (hbc ▸ hab)
    · exact .inl (hab ▸ hbc)
    · exact .inr ⟨hab.trans hbc, String.lt_trans htext htext'⟩

instance : Std.Trichotomous (α := NamePart) (· < ·) where
  trichotomous a b hab hba := by
    have hrank : a.rank = b.rank :=
      Nat.le_antisymm (Nat.le_of_not_lt fun h => hba (.inl h))
        (Nat.le_of_not_lt fun h => hab (.inl h))
    refine eq_of_rank_eq hrank (String.le_antisymm ?_ ?_)
    · exact String.not_lt.mp fun h => hba (.inr ⟨hrank.symm, h⟩)
    · exact String.not_lt.mp fun h => hab (.inr ⟨hrank, h⟩)

end NamePart

/-! ## Sorting -/

/-- Nothing but the new name comes into a list. -/
theorem mem_of_mem_insertName {name a : String} {names : List String}
    (h : a ∈ insertName name names) : a = name ∨ a ∈ names := by
  induction names with
  | nil => exact .inl (List.mem_singleton.mp h)
  | cons first rest ih =>
    rw [insertName] at h
    split at h
    · exact List.mem_cons.mp h
    split at h
    · exact .inr h
    · rcases List.mem_cons.mp h with rfl | h
      · exact .inr List.mem_cons_self
      · exact (ih h).imp_right (List.mem_cons_of_mem first)

/-- The parts of the new name and of those that were there are all there. -/
theorem exists_mem_insertName {name : String} {names : List String} (parts : List NamePart) :
    (∃ a ∈ insertName name names, nameParts a = parts) ↔
      nameParts name = parts ∨ ∃ a ∈ names, nameParts a = parts := by
  induction names with
  | nil => simp [insertName]
  | cons first rest ih =>
    rw [insertName]
    split
    · simp only [List.exists_mem_cons_iff]
    split
    · next hsame => simp only [List.exists_mem_cons_iff, hsame, or_self_left]
    · simp only [List.exists_mem_cons_iff, ih, or_left_comm]

theorem insertName_pairwise {name : String} {names : List String}
    (h : names.Pairwise fun a b => nameParts a < nameParts b) :
    (insertName name names).Pairwise fun a b => nameParts a < nameParts b := by
  induction names with
  | nil => exact List.pairwise_singleton _ name
  | cons first rest ih =>
    obtain ⟨hfirst, hrest⟩ := List.pairwise_cons.mp h
    rw [insertName]
    split
    · next hlt =>
      refine List.pairwise_cons.mpr ⟨?_, h⟩
      intro a ha
      rcases List.mem_cons.mp ha with rfl | ha
      · exact hlt
      · exact List.lt_trans hlt (hfirst a ha)
    · next hnlt =>
      split
      · exact h
      · next hne =>
        refine List.pairwise_cons.mpr ⟨?_, ih hrest⟩
        intro a ha
        rcases mem_of_mem_insertName ha with rfl | ha
        · by_contra hngt
          exact hne (List.le_antisymm (List.not_lt.mp hngt) (List.not_lt.mp hnlt))
        · exact hfirst a ha

/-- What holds of an empty list and of a list with a name more holds of sorted names. -/
theorem sortNames_induction {motive : List String → List String → Prop} (hnil : motive [] [])
    (hinsert : ∀ names sorted name, motive names sorted →
      motive (names ++ [name]) (insertName name sorted)) (names : List String) :
    motive names (sortNames names) := by
  induction names using List.reverseRecOn with
  | nil => exact hnil
  | append_singleton names name ih =>
    rw [sortNames, List.foldl_append]
    exact hinsert names _ name ih

/-- Sorted names increase, so no two of them have the same parts. -/
theorem sortNames_pairwise (names : List String) :
    (sortNames names).Pairwise fun a b => nameParts a < nameParts b :=
  sortNames_induction (motive := fun _ sorted =>
      sorted.Pairwise fun a b => nameParts a < nameParts b)
    List.Pairwise.nil (fun _ _ _ h => insertName_pairwise h) names

theorem nodup_map_nameParts (names : List String) : ((sortNames names).map nameParts).Nodup := by
  refine List.pairwise_map.mpr ((sortNames_pairwise names).imp ?_)
  intro a b hlt heq
  rw [heq] at hlt
  exact List.lt_irrefl _ hlt

/-- They are names that were to be sorted. -/
theorem mem_of_mem_sortNames {a : String} {names : List String} (h : a ∈ sortNames names) :
    a ∈ names := by
  refine sortNames_induction (motive := fun names sorted => a ∈ sorted → a ∈ names)
    id ?_ names h
  intro names sorted name ih ha
  rcases mem_of_mem_insertName ha with rfl | ha
  · exact List.mem_append_right names List.mem_cons_self
  · exact List.mem_append_left [name] (ih ha)

/-- And none of those is lost, but for its spelling. -/
theorem exists_mem_sortNames (names : List String) (parts : List NamePart) :
    (∃ a ∈ sortNames names, nameParts a = parts) ↔ ∃ a ∈ names, nameParts a = parts := by
  refine sortNames_induction (motive := fun names sorted =>
    (∃ a ∈ sorted, nameParts a = parts) ↔ ∃ a ∈ names, nameParts a = parts) Iff.rfl ?_ names
  intro names sorted name ih
  rw [exists_mem_insertName, ih]
  simp [or_and_right, exists_or, or_comm]

/-! ## The parts of a name -/

/-- What a name starts from, if it says so. -/
def beginning? (name : String) : Option NamePart :=
  if isRooted name then some .root
  else if (namePieces name).head? = some "." then some .here
  else none

theorem nameParts_eq (name : String) :
    nameParts name =
      (beginning? name).toList ++ (namePieces name).filterMap NamePart.ofPiece? := by
  rw [nameParts, beginning?]
  split
  · rfl
  split <;> rfl

theorem isRooted_eq_of_beginning?_eq {a b : String} (h : beginning? a = beginning? b) :
    isRooted a = isRooted b := by
  have hrooted : ∀ name, isRooted name = true ↔ beginning? name = some .root := by
    intro name
    rw [beginning?]
    cases isRooted name <;> simp
  rw [Bool.eq_iff_iff, hrooted, hrooted, h]

/-- A text that holds no slash is one piece. -/
theorem splitAtSlashes_of_notMem {cs : List Char} (h : '/' ∉ cs) : splitAtSlashes cs = [cs] := by
  induction cs with
  | nil => rfl
  | cons c cs ih =>
    have hc : c ≠ '/' := fun hc => h (hc ▸ List.mem_cons_self)
    rw [splitAtSlashes, ih fun hmem => h (List.mem_cons_of_mem c hmem)]
    exact if_neg hc

theorem splitAtSlashes_ne_nil (cs : List Char) : splitAtSlashes cs ≠ [] := by
  cases cs with
  | nil => exact List.cons_ne_nil _ _
  | cons c cs =>
    rw [splitAtSlashes]
    split
    · exact List.cons_ne_nil _ _
    · split <;> exact List.cons_ne_nil _ _

/-- The pieces on both sides of a slash. -/
theorem splitAtSlashes_append (us ws : List Char) :
    splitAtSlashes (us ++ '/' :: ws) = splitAtSlashes us ++ splitAtSlashes ws := by
  induction us with
  | nil =>
    cases hws : splitAtSlashes ws with
    | nil => exact absurd hws (splitAtSlashes_ne_nil ws)
    | cons piece rest =>
      rw [List.nil_append, splitAtSlashes.eq_2, hws]
      exact if_pos rfl
  | cons c us ih =>
    rw [List.cons_append, splitAtSlashes, ih, splitAtSlashes]
    cases hus : splitAtSlashes us with
    | nil => exact absurd hus (splitAtSlashes_ne_nil us)
    | cons piece rest =>
      rw [List.cons_append]
      dsimp only
      split <;> rfl

/-- A name that an entry of a directory can have. -/
structure IsEntryName (name : String) : Prop where
  ne_empty : name ≠ ""
  ne_dot : name ≠ "."
  ne_up : name ≠ ".."
  notMem_slash : '/' ∉ name.toList

instance (name : String) : Decidable (IsEntryName name) :=
  decidable_of_iff (name ≠ "" ∧ name ≠ "." ∧ name ≠ ".." ∧ '/' ∉ name.toList)
    ⟨fun ⟨h₁, h₂, h₃, h₄⟩ => ⟨h₁, h₂, h₃, h₄⟩, fun ⟨h₁, h₂, h₃, h₄⟩ => ⟨h₁, h₂, h₃, h₄⟩⟩

theorem IsEntryName.ofPiece?_eq {name : String} (h : IsEntryName name) :
    NamePart.ofPiece? name = some (.entry name) := by
  simp [NamePart.ofPiece?, h.ne_empty, h.ne_dot, h.ne_up]

/-- The pieces of an entry's name: those of the directory but for an empty one behind a
slash, and the entry. -/
theorem exists_namePieces_joinName (directory : String) {entry : String} (h : IsEntryName entry) :
    ∃ pieces blanks, (∀ piece ∈ blanks, piece = "") ∧ pieces ≠ [] ∧
      namePieces directory = pieces ++ blanks ∧
      namePieces (joinName directory entry) = pieces ++ [entry] := by
  have hpieces : ∀ cs, (splitAtSlashes cs).map String.ofList ≠ [] :=
    fun cs hnil => splitAtSlashes_ne_nil cs (List.map_eq_nil_iff.mp hnil)
  have hentry : (splitAtSlashes entry.toList).map String.ofList = [entry] := by
    rw [splitAtSlashes_of_notMem h.notMem_slash, List.map_singleton, String.ofList_toList]
  rw [joinName]
  split
  · next hslash =>
    -- the slash is there already
    obtain ⟨cs, hcs⟩ := List.getLast?_eq_some_iff.mp hslash
    refine ⟨(splitAtSlashes cs).map String.ofList, [""], by simp, hpieces cs, ?_, ?_⟩
    · rw [namePieces, hcs, splitAtSlashes_append, List.map_append]
      rfl
    · rw [namePieces, String.toList_append, hcs, List.append_assoc, List.singleton_append,
        splitAtSlashes_append, List.map_append, hentry]
  · refine ⟨namePieces directory, [], by simp, hpieces _, by simp, ?_⟩
    rw [namePieces, String.toList_append, String.toList_append, List.append_assoc]
    show (splitAtSlashes (directory.toList ++ '/' :: entry.toList)).map _ = _
    rw [splitAtSlashes_append, List.map_append, hentry, namePieces]

/-- A directory's entry begins as the directory does, and its parts are those of the
directory and one more. -/
theorem nameParts_joinName {directory entry : String} (hdirectory : directory ≠ "")
    (h : IsEntryName entry) :
    beginning? (joinName directory entry) = beginning? directory ∧
      nameParts (joinName directory entry) = nameParts directory ++ [.entry entry] := by
  obtain ⟨pieces, blanks, hblanks, hne, hbefore, hafter⟩ :=
    exists_namePieces_joinName directory h
  have hhead : (namePieces (joinName directory entry)).head? = (namePieces directory).head? := by
    rw [hbefore, hafter, List.head?_append_of_ne_nil _ hne, List.head?_append_of_ne_nil _ hne]
  have hrooted : isRooted (joinName directory entry) = isRooted directory := by
    have hcs : directory.toList ≠ [] := fun hnil => hdirectory (String.toList_eq_nil_iff.mp hnil)
    rw [isRooted, isRooted, joinName]
    split <;> simp [List.head?_append_of_ne_nil _ hcs]
  have hbeginning : beginning? (joinName directory entry) = beginning? directory := by
    rw [beginning?, beginning?, hhead, hrooted]
  have hnothing : blanks.filterMap NamePart.ofPiece? = [] :=
    List.filterMap_eq_nil_iff.mpr fun piece hpiece => by rw [hblanks piece hpiece]; rfl
  refine ⟨hbeginning, ?_⟩
  rw [nameParts_eq, nameParts_eq, hbeginning, hbefore, hafter, List.filterMap_append,
    List.filterMap_append, hnothing, List.append_nil, List.append_assoc]
  simp [h.ofPiece?_eq]

theorem joinName_ne_empty {directory : String} (h : directory ≠ "") (entry : String) :
    joinName directory entry ≠ "" := by
  intro hempty
  apply h
  rw [joinName] at hempty
  split at hempty
  · exact (String.append_eq_empty_iff.mp hempty).1
  · exact (String.append_eq_empty_iff.mp (String.append_eq_empty_iff.mp hempty).1).1

/-- The same for an entry further down. -/
theorem nameParts_foldl_joinName {directory : String} (hdirectory : directory ≠ "")
    {below : Place} (h : ∀ entry ∈ below, IsEntryName entry) :
    beginning? (below.foldl joinName directory) = beginning? directory ∧
      nameParts (below.foldl joinName directory) =
        nameParts directory ++ below.map NamePart.entry := by
  induction below generalizing directory with
  | nil => exact ⟨rfl, (List.append_nil _).symm⟩
  | cons entry below ih =>
    obtain ⟨hbeginning, hparts⟩ := nameParts_joinName hdirectory (h entry List.mem_cons_self)
    obtain ⟨hbeginnings, hrest⟩ := ih (joinName_ne_empty hdirectory entry)
      fun e he => h e (List.mem_cons_of_mem entry he)
    refine ⟨hbeginnings.trans hbeginning, ?_⟩
    rw [List.foldl_cons, hrest, hparts, List.append_assoc]
    rfl

namespace FileTree

/-! ## Where names lead -/

/-- Pieces that can be followed lead where they lead without looking. -/
theorem eq_foldl_step_of_follow {t : FileTree} {p q : Place} {pieces : List String}
    (h : t.follow p pieces = .ok q) : q = pieces.foldl step p := by
  induction pieces generalizing p with
  | nil => cases h; rfl
  | cons piece rest ih =>
    rw [follow] at h
    obtain ⟨_, -, h⟩ := exists_of_bind_eq_ok h
    split at h
    · cases h
    · exact ih h

theorem place_of_locate {t : FileTree} {name : String} {p : Place}
    (h : t.locate name = .ok p) : t.place name = p := by
  rw [locate] at h
  obtain ⟨_, -, h⟩ := exists_of_bind_eq_ok h
  exact (eq_foldl_step_of_follow h).symm

/-- Pieces that do not go back add their entries. -/
theorem foldl_step_of_notMem_up (p : Place) {pieces : List String}
    (h : .up ∉ pieces.filterMap NamePart.ofPiece?) :
    pieces.foldl step p = p ++ (pieces.filterMap NamePart.ofPiece?).map NamePart.text ∧
      ∀ part ∈ pieces.filterMap NamePart.ofPiece?, part = .entry part.text := by
  induction pieces generalizing p with
  | nil => exact ⟨(List.append_nil p).symm, fun _ hpart => nomatch hpart⟩
  | cons piece rest ih =>
    rw [List.foldl_cons, step]
    rw [List.filterMap_cons, NamePart.ofPiece?] at h ⊢
    split_ifs at h ⊢ with hnone hup
    · exact ih p h
    · exact absurd List.mem_cons_self h
    · obtain ⟨hplace, hentries⟩ := ih (p ++ [piece]) fun hmem => h (List.mem_cons_of_mem _ hmem)
      refine ⟨by rw [hplace, List.append_assoc]; rfl, ?_⟩
      rintro part (_ | ⟨_, hpart⟩)
      · rfl
      · exact hentries part hpart

/-- Two names of one place have the same parts, but for what they start from and for going
back. -/
theorem nameParts_eq_of_place_eq {t : FileTree} {a b : String} (ha : .up ∉ nameParts a)
    (hb : .up ∉ nameParts b) (hbeginning : beginning? a = beginning? b)
    (hplace : t.place a = t.place b) : nameParts a = nameParts b := by
  rw [nameParts_eq] at ha hb ⊢
  rw [nameParts_eq, hbeginning]
  obtain ⟨hplaceA, hentriesA⟩ := foldl_step_of_notMem_up (t.start a)
    fun h => ha (List.mem_append_right _ h)
  obtain ⟨hplaceB, hentriesB⟩ := foldl_step_of_notMem_up (t.start b)
    fun h => hb (List.mem_append_right _ h)
  have hstart : t.start a = t.start b := by
    rw [start, start, isRooted_eq_of_beginning?_eq hbeginning]
  rw [place, place, hplaceA, hplaceB, hstart] at hplace
  have htexts := List.append_cancel_left hplace
  have hback : ∀ parts : List NamePart, (∀ part ∈ parts, part = .entry part.text) →
      (parts.map NamePart.text).map .entry = parts := by
    intro parts hparts
    rw [List.map_map]
    exact (List.map_congr_left fun part hpart => (hparts part hpart).symm).trans (List.map_id parts)
  have hentries := congrArg (List.map NamePart.entry) htexts
  rw [hback _ hentriesA, hback _ hentriesB] at hentries
  rw [hentries]

/-! ## What arguments stand for -/

/-- Every file has a name that an entry of a directory can have, and so have the directories
above it. -/
def HasEntryNames (t : FileTree) : Prop := ∀ f ∈ t.files, ∀ name ∈ f.1, IsEntryName name

instance (t : FileTree) : Decidable t.HasEntryNames :=
  inferInstanceAs (Decidable (∀ f ∈ t.files, ∀ name ∈ f.1, IsEntryName name))

/-- An argument stands for itself or for files below it. -/
theorem exists_of_mem_expand {t : FileTree} {argument name : String}
    (h : name ∈ t.expand argument) :
    name = argument ∨ argument ≠ "" ∧
      ∃ f ∈ t.files, ∃ k, name = (f.1.drop k).foldl joinName argument := by
  rw [expand] at h
  split at h
  · exact .inl (List.mem_singleton.mp h)
  · next p hp =>
    split at h
    · refine .inr ⟨?_, ?_⟩
      · rintro rfl
        cases hp
      · obtain ⟨below, hbelow, rfl⟩ := List.mem_map.mp h
        obtain ⟨f, hf, hbelow⟩ := List.mem_filterMap.mp (List.mem_filter.mp hbelow).1
        split at hbelow
        · cases hbelow
          exact ⟨f, hf, p.length, rfl⟩
        · cases hbelow
    · exact .inl (List.mem_singleton.mp h)

/-- Its files begin as it does and go back no more than it does. -/
theorem HasEntryNames.of_mem_expand {t : FileTree} (ht : t.HasEntryNames)
    {argument name : String} (h : name ∈ t.expand argument) :
    beginning? name = beginning? argument ∧ (.up ∈ nameParts name → .up ∈ nameParts argument) := by
  rcases exists_of_mem_expand h with rfl | ⟨hargument, f, hf, k, rfl⟩
  · exact ⟨rfl, id⟩
  · obtain ⟨hbeginning, hparts⟩ := nameParts_foldl_joinName hargument
      fun entry hentry => ht f hf entry (List.mem_of_mem_drop hentry)
    refine ⟨hbeginning, ?_⟩
    rw [hparts, List.mem_append]
    rintro (hup | hup)
    · exact hup
    · obtain ⟨_, -, hentry⟩ := List.mem_map.mp hup
      cases hentry

end FileTree

/-! ## Files that are listed once -/

/-- A batch gets to the first names of its list. -/
theorem RuleSet.applyToFiles_names_prefix (s : RuleSet) (dryRun : Bool) (t : FileTree)
    (names : List String) :
    (s.applyToFiles dryRun t names).results.map FileResult.name <+: names := by
  induction names generalizing t with
  | nil => exact List.prefix_refl []
  | cons name names ih =>
    rw [applyToFiles]
    split
    · exact List.nil_prefix
    · dsimp only
      split
      · exact List.cons_prefix_cons.mpr ⟨rfl, List.nil_prefix⟩
      · exact List.cons_prefix_cons.mpr ⟨rfl, ih _⟩

namespace FileTree

/-- The forms of a data file, none if it cannot be read. -/
def formsOf (t : FileTree) (name : String) : List Datum :=
  match t.readForms name with
  | .ok (_, forms) => forms
  | .error _ => []

/-- A search that succeeds has the findings of one file behind the other. -/
theorem findings_eq_flatMap {t : FileTree} {p : Pattern} {names : List String}
    {found : List Finding} (h : t.findings p names = .ok found) :
    found = names.flatMap fun name => fileFindings name p (t.formsOf name) := by
  induction names generalizing found with
  | nil => cases h; rfl
  | cons name names ih =>
    rw [findings] at h
    obtain ⟨⟨text, forms⟩, hread, h⟩ := exists_of_bind_eq_ok h
    obtain ⟨rest, hrest, h⟩ := exists_of_bind_eq_ok h
    cases h
    rw [List.flatMap_cons, ← ih hrest, formsOf, hread]

theorem NamesApart.of_prefix {t : FileTree} {names others : List String}
    (h : t.NamesApart names) (hbegins : others <+: names) : t.NamesApart others :=
  List.Nodup.sublist (hbegins.sublist.filterMap _) h

end FileTree

namespace FileTree

/-- Different entries of one list that lead to one place: one of them goes back, or they do
not start alike. -/
theorem dataFiles_of_locate_eq {t : FileTree} {arguments : List String} {a b : String}
    (ha : a ∈ t.dataFiles arguments) (hb : b ∈ t.dataFiles arguments) (hne : a ≠ b) {p : Place}
    (hpa : t.locate a = .ok p) (hpb : t.locate b = .ok p) :
    .up ∈ nameParts a ∨ .up ∈ nameParts b ∨ beginning? a ≠ beginning? b := by
  by_contra hno
  simp only [not_or, not_not] at hno
  obtain ⟨hupA, hupB, hbeginning⟩ := hno
  have hparts := nameParts_eq_of_place_eq hupA hupB hbeginning
    ((place_of_locate hpa).trans (place_of_locate hpb).symm)
  exact hne (List.inj_on_of_nodup_map (nodup_map_nameParts _) ha hb hparts)

/-- **Data files listed once.** The list of data files increases, part by part, so no two of
its names have the same parts; it holds what the arguments stand for and nothing else. Two of
its names that lead to one place do not start alike, or one of them goes back through `..`.
A file tree has no links, so a file is listed twice in these ways only: if the arguments start
alike and do not go back, no file is listed twice, however one argument lies inside another
one, a batch of rules meets no file twice, and a search has the findings of every file once. -/
theorem dataFiles_listed_once (t : FileTree) (arguments : List String) :
    let names := t.dataFiles arguments
    (names.Pairwise fun a b => nameParts a < nameParts b) ∧
    (∀ a ∈ names, a ∈ arguments.flatMap t.expand) ∧
    (∀ a ∈ arguments.flatMap t.expand, ∃ b ∈ names, nameParts b = nameParts a) ∧
    (∀ a ∈ names, ∀ b ∈ names, a ≠ b → ∀ p, t.locate a = .ok p → t.locate b = .ok p →
      .up ∈ nameParts a ∨ .up ∈ nameParts b ∨ beginning? a ≠ beginning? b) ∧
    (t.HasEntryNames → (∀ a ∈ arguments, .up ∉ nameParts a) →
      (∀ a ∈ arguments, ∀ b ∈ arguments, beginning? a = beginning? b) →
      t.NamesApart names ∧
      ∀ s dryRun, t.NamesApart
        ((RuleSet.applyToFiles s dryRun t names).results.map FileResult.name)) ∧
    ∀ p found, t.findings p names = .ok found →
      found = names.flatMap fun name => fileFindings name p (t.formsOf name) := by
  intro names
  have hmem : ∀ a ∈ names, a ∈ arguments.flatMap t.expand := fun a => mem_of_mem_sortNames
  refine ⟨sortNames_pairwise _, hmem, ?_, ?_, ?_, fun p found => findings_eq_flatMap⟩
  · intro a ha
    exact (exists_mem_sortNames _ (nameParts a)).mpr ⟨a, ha, rfl⟩
  · intro a ha b hb hne p hpa hpb
    exact dataFiles_of_locate_eq ha hb hne hpa hpb
  · intro ht hup hbeginning
    have horigin : ∀ a ∈ names, .up ∉ nameParts a ∧
        ∃ argument ∈ arguments, beginning? a = beginning? argument := by
      intro a ha
      obtain ⟨argument, hargument, ha⟩ := List.mem_flatMap.mp (hmem a ha)
      obtain ⟨hbegins, hback⟩ := ht.of_mem_expand ha
      exact ⟨fun h => hup argument hargument (hback h), argument, hargument, hbegins⟩
    have hapart : t.NamesApart names := by
      rw [NamesApart, List.Nodup, List.pairwise_filterMap]
      have hsorted : names.Pairwise fun a b => nameParts a < nameParts b := sortNames_pairwise _
      -- two names of one place differ in a way that the arguments leave no room for
      refine hsorted.imp_of_mem ?_
      rintro a b ha hb hlt p hp q hq rfl
      obtain ⟨hupA, argument, hargument, hbeginsA⟩ := horigin a ha
      obtain ⟨hupB, argument', hargument', hbeginsB⟩ := horigin b hb
      have hne : a ≠ b := by
        rintro rfl
        exact List.lt_irrefl _ hlt
      rcases dataFiles_of_locate_eq ha hb hne (fileOf?_eq_some.mp hp).1
        (fileOf?_eq_some.mp hq).1 with h | h | h
      · exact hupA h
      · exact hupB h
      · exact h (hbeginsA.trans ((hbeginning _ hargument _ hargument').trans hbeginsB.symm))
    exact ⟨hapart, fun s dryRun => hapart.of_prefix (s.applyToFiles_names_prefix dryRun t names)⟩

/-- A directory, one inside it and a file of it in another spelling. -/
theorem dataFiles_listed_once_nested :
    let t : FileTree :=
      ⟨[], [(["d", "a.sexp"], "(a)".toUTF8), (["d", "e", "b.sexp"], "(b)".toUTF8)], []⟩
    t.dataFiles ["d", "d/e", "d//a.sexp"] = ["d/a.sexp", "d/e/b.sexp"] ∧
      t.HasEntryNames ∧ t.NamesApart (t.dataFiles ["d", "d/e", "d//a.sexp"]) := by
  intro t
  have ht : t.HasEntryNames := by decide +kernel
  obtain ⟨-, -, -, -, hapart, -⟩ := t.dataFiles_listed_once ["d", "d/e", "d//a.sexp"]
  refine ⟨by decide +kernel, ht, (hapart ht ?_ ?_).1⟩
  all_goals decide +kernel

/-- One file by two names: a search counts its match twice. -/
theorem dataFiles_listed_twice :
    let t : FileTree := ⟨[], [(["a.sexp"], "(a)".toUTF8)], []⟩
    t.dataFiles ["a.sexp", "./a.sexp"] = ["./a.sexp", "a.sexp"] ∧
      t.fileOf? "./a.sexp" = some ["a.sexp"] ∧ t.fileOf? "a.sexp" = some ["a.sexp"] ∧
      ¬ t.NamesApart (t.dataFiles ["a.sexp", "./a.sexp"]) ∧
      (Command.search t "(a)" ["a.sexp", "./a.sexp"] .count).out = "2\n" := by
  decide +kernel

end FileTree

end SexprQuery
