import SexprQuery.Proofs.Division
import SexprQuery.Proofs.FileNames
import SexprQuery.Proofs.JsonText
import SexprQuery.Proofs.NumberText

/-!
# The places of findings

A finding says where its node stands: the number of a top-level form, and behind that the
path in the form. `readPlace?` reads this back (`readPlace?_formPlace`), so no two places of a
file have one text.

The findings in a file are the matches in its forms, written down one by one
(`fileFindings_eq`). The matches are the nodes that satisfy the pattern (`mem_fileMatches`), in
the order of forms and, in a form, of paths (`fileMatches_pairwise`), and so are the findings,
also among those of other files that were searched with it (`FileTree.findings_of_file`).

A search prints its findings in one of three styles (`Finding.printed`). A place has no character
that JSON text would write in another way, so in JSON the places are printed as they are
(`string_formPlace`).
-/

namespace SexprQuery

/-! ## Reading a place -/

/-- The number that a row of digits spells; there has to be one. -/
def numeral? (cs : List Char) : Option Nat :=
  if cs.isEmpty || !cs.all Decimal.isDigit then none else some (Decimal.value cs)

/-- What a place says: the number of a form and the path in it. The path of a form itself is
a slash alone. -/
def readPlace? (place : String) : Option (Nat × Path) :=
  match splitAtSlashes place.toList with
  | [index, []] => return (← numeral? index, [])
  | index :: slot :: slots => return (← numeral? index, ← (slot :: slots).mapM numeral?)
  | _ => none

theorem numeral?_digits (n : Nat) : numeral? (Decimal.digits n) = some n := by
  rw [numeral?, Decimal.all_isDigit_digits, Decimal.value_digits]
  simp [Decimal.digits_ne_nil]

theorem mapM_numeral?_digits (p : Path) : (p.map Decimal.digits).mapM numeral? = some p := by
  induction p with
  | nil => rfl
  | cons i p ih => rw [List.map_cons, List.mapM_cons, numeral?_digits, ih]; rfl

theorem slash_notMem_digits (n : Nat) : '/' ∉ Decimal.digits n := by
  intro h
  exact absurd (Decimal.isDigit_of_mem_digits h) (by decide)

/-- The pieces of a place that is not the form itself. -/
theorem splitAtSlashes_slots {cs : List Char} (hcs : '/' ∉ cs) (p : Path) :
    splitAtSlashes (cs ++ p.flatMap fun i => '/' :: Decimal.digits i) =
      cs :: p.map Decimal.digits := by
  induction p generalizing cs with
  | nil => rw [List.flatMap_nil, List.append_nil, splitAtSlashes_of_notMem hcs, List.map_nil]
  | cons i p ih =>
    rw [List.flatMap_cons, List.cons_append, splitAtSlashes_append, splitAtSlashes_of_notMem hcs,
      ih (slash_notMem_digits i)]
    rfl

/-- **A written place reads back.** -/
theorem readPlace?_formPlace (index : Nat) (p : Path) :
    readPlace? (formPlace index p) = some (index, p) := by
  rw [readPlace?, formPlace, String.toList_ofList]
  cases p with
  | nil =>
    have hpieces : splitAtSlashes (Decimal.digits index ++ Path.chars []) =
        [Decimal.digits index, []] := by
      rw [Path.chars, splitAtSlashes_append, splitAtSlashes_of_notMem (slash_notMem_digits index)]
      rfl
    simp only [hpieces, numeral?_digits]
    rfl
  | cons i p =>
    -- a slot has digits, so it is not taken for the end of a slash that stands alone
    obtain ⟨c, cs, hdigits, -⟩ := Decimal.exists_cons_digits i
    have hpieces : splitAtSlashes (Decimal.digits index ++ Path.chars (i :: p)) =
        Decimal.digits index :: (c :: cs) :: p.map Decimal.digits := by
      rw [Path.chars, splitAtSlashes_slots (slash_notMem_digits index), List.map_cons, hdigits]
      exact List.cons_ne_nil i p
    have hslots : ((c :: cs) :: p.map Decimal.digits).mapM numeral? = some (i :: p) := by
      rw [← hdigits]
      exact mapM_numeral?_digits (i :: p)
    simp only [hpieces, numeral?_digits, hslots]
    rfl

theorem formPlace_injective {i j : Nat} {p q : Path} (h : formPlace i p = formPlace j q) :
    i = j ∧ p = q := by
  have hread := congrArg readPlace? h
  rw [readPlace?_formPlace, readPlace?_formPlace] at hread
  exact Prod.mk.inj (Option.some.inj hread)

/-! ## A place in JSON -/

theorem stringChar_of_isDigit {c : Char} (h : Decimal.isDigit c = true) :
    Json.stringChar c = [c] := by
  rw [Decimal.isDigit, Bool.and_eq_true, decide_eq_true_eq, decide_eq_true_eq] at h
  have hlow : 48 ≤ c.toNat := h.1
  have hhigh : c.toNat ≤ 57 := h.2
  unfold Json.stringChar
  split
  case h_2 => exact absurd hhigh (by decide)
  case h_8 => exact if_neg (by omega)
  all_goals exact absurd hlow (by decide)

theorem stringChar_of_mem_formPlace {index : Nat} {p : Path} {c : Char}
    (h : c ∈ (formPlace index p).toList) : Json.stringChar c = [c] := by
  have hslots : ∀ q : Path, (c ∈ q.flatMap fun i => '/' :: Decimal.digits i) →
      Json.stringChar c = [c] := by
    intro q hc
    obtain ⟨i, -, hc⟩ := List.mem_flatMap.mp hc
    rcases List.mem_cons.mp hc with rfl | hc
    · rfl
    · exact stringChar_of_isDigit (Decimal.isDigit_of_mem_digits hc)
  rw [formPlace, String.toList_ofList, List.mem_append] at h
  rcases h with hdigit | hpath
  · exact stringChar_of_isDigit (Decimal.isDigit_of_mem_digits hdigit)
  · cases p with
    | nil =>
      rw [List.mem_singleton.mp hpath]
      rfl
    | cons i q => exact hslots (i :: q) hpath

/-- A place is printed as it is. -/
theorem string_formPlace (index : Nat) (p : Path) :
    Json.string (formPlace index p) = "\"" ++ formPlace index p ++ "\"" :=
  Json.string_of_plain fun _ => stringChar_of_mem_formPlace

/-! ## The matches in the forms of a file -/

/-- The nodes that satisfy a pattern, each with the number of its form and its path there. -/
def fileMatches (p : Pattern) (forms : List Datum) : List ((Nat × Path) × Node) :=
  forms.zipIdx.flatMap fun form =>
    (form.1.node?.toList.flatMap fun n => n.search p).map fun found =>
      ((form.2, found.1), found.2)

/-- A match as it is reported. -/
def Finding.ofMatch (file : String) (hit : (Nat × Path) × Node) : Finding :=
  ⟨file, hit.2.line, formPlace hit.1.1 hit.1.2, hit.2.source⟩

theorem fileFindings_eq (file : String) (p : Pattern) (forms : List Datum) :
    fileFindings file p forms = (fileMatches p forms).map (Finding.ofMatch file) := by
  rw [fileFindings, fileMatches, List.map_flatMap]
  congr 1
  funext form
  rw [formFindings, List.map_map]
  cases form.1.node? with
  | none => rfl
  | some n =>
    rw [Option.toList_some, List.flatMap_singleton]
    rfl

/-- The matches are all nodes of all forms that satisfy the pattern. -/
theorem mem_fileMatches {p : Pattern} {forms : List Datum} {i : Nat} {q : Path} {m : Node} :
    ((i, q), m) ∈ fileMatches p forms ↔
      ∃ form, forms[i]? = some form ∧ form.at? q = some m ∧ p.satisfiesNode m = true := by
  have hform : ∀ form : Datum, (q, m) ∈ (form.node?.toList.flatMap fun n => n.search p) ↔
      form.at? q = some m ∧ p.satisfiesNode m = true := by
    intro form
    cases hnode : form.node? with
    | none =>
      have hatom : form.isList = false := by cases form <;> first | rfl | cases hnode
      simp [Datum.at?_eq_none_of_atom hatom]
    | some n =>
      rw [Option.toList_some, List.flatMap_singleton, n.mem_search, Node.at?,
        Datum.eq_toDatum_of_node? hnode]
  rw [fileMatches, List.mem_flatMap]
  constructor
  · rintro ⟨⟨form, j⟩, hmem, hhit⟩
    obtain ⟨found, hfound, heq⟩ := List.mem_map.mp hhit
    cases heq
    exact ⟨form, List.mk_mem_zipIdx_iff_getElem?.mp hmem, (hform form).mp hfound⟩
  · rintro ⟨form, hmem, hfound⟩
    exact ⟨(form, i), List.mk_mem_zipIdx_iff_getElem?.mpr hmem,
      List.mem_map.mpr ⟨(q, m), (hform form).mpr hfound, rfl⟩⟩

/-- They come form by form, and in a form in the order of their paths. -/
theorem fileMatches_pairwise (p : Pattern) (forms : List Datum) :
    (fileMatches p forms).Pairwise fun a b => Prod.Lex (· < ·) (· < ·) a.1 b.1 := by
  rw [fileMatches, List.pairwise_flatMap]
  constructor
  · rintro ⟨form, i⟩ -
    rw [List.pairwise_map]
    cases form.node? with
    | none => exact List.Pairwise.nil
    | some n =>
      rw [Option.toList_some, List.flatMap_singleton]
      refine (n.search_pairwise p).imp ?_
      rintro ⟨q, m⟩ ⟨r, k⟩ hlt
      exact Prod.Lex.right i hlt
  · have hindices : forms.zipIdx.Pairwise fun a b => a.2 < b.2 := by
      rw [← List.pairwise_map (f := Prod.snd), List.zipIdx_map_snd]
      exact List.pairwise_lt_range'
    refine hindices.imp ?_
    rintro ⟨form, i⟩ ⟨form', j⟩ hlt a ha b hb
    obtain ⟨_, -, rfl⟩ := List.mem_map.mp ha
    obtain ⟨_, -, rfl⟩ := List.mem_map.mp hb
    exact Prod.Lex.left _ _ hlt

/-- No two findings in a file have one place. -/
theorem nodup_places (file : String) (p : Pattern) (forms : List Datum) :
    ((fileFindings file p forms).map Finding.place).Nodup := by
  rw [fileFindings_eq, List.map_map]
  refine List.pairwise_map.mpr ((fileMatches_pairwise p forms).imp ?_)
  rintro ⟨⟨i, q⟩, m⟩ ⟨⟨j, r⟩, k⟩ hlt heq
  obtain ⟨rfl, rfl⟩ := formPlace_injective heq
  rcases Prod.lex_def.mp hlt with h | ⟨-, h⟩
  · exact Nat.lt_irrefl i h
  · exact List.lt_irrefl q h

/-! ## The findings in one file of many -/

/-- A name stands in a list of data files once. -/
theorem FileTree.nodup_dataFiles (t : FileTree) (arguments : List String) :
    (t.dataFiles arguments).Nodup := by
  exact (nodup_map_nameParts _).of_map nameParts

/-- A finding names its file. -/
theorem file_of_mem_fileFindings {file : String} {p : Pattern} {forms : List Datum} {r : Finding}
    (h : r ∈ fileFindings file p forms) : r.file = file := by
  rw [fileFindings_eq] at h
  obtain ⟨_, -, rfl⟩ := List.mem_map.mp h
  rfl

/-- So the findings in other files can be told from it. -/
theorem FileTree.filter_findings_eq_nil {names : List String} {file : String}
    (h : file ∉ names) (t : FileTree) (p : Pattern) :
    (names.flatMap fun name => fileFindings name p (t.formsOf name)).filter
      (fun r => r.file = file) = [] := by
  rw [List.filter_eq_nil_iff]
  intro r hr
  obtain ⟨name, hname, hr⟩ := List.mem_flatMap.mp hr
  rw [file_of_mem_fileFindings hr, decide_eq_true_iff]
  rintro rfl
  exact h hname

/-- Among the findings in several files, those of one of them are the findings in that file. -/
theorem FileTree.findings_of_file {t : FileTree} {p : Pattern} {names : List String}
    {found : List Finding} (h : t.findings p names = .ok found) (hnames : names.Nodup)
    {file : String} (hfile : file ∈ names) :
    found.filter (fun r => r.file = file) = fileFindings file p (t.formsOf file) := by
  obtain ⟨before, behind, rfl⟩ := List.append_of_mem hfile
  obtain ⟨-, hbehind, hapart⟩ := List.nodup_append.mp hnames
  have hbefore : file ∉ before := fun hmem => hapart file hmem file List.mem_cons_self rfl
  have hown : (fileFindings file p (t.formsOf file)).filter (fun r => r.file = file) =
      fileFindings file p (t.formsOf file) :=
    List.filter_eq_self.mpr fun r hr => decide_eq_true (file_of_mem_fileFindings hr)
  rw [findings_eq_flatMap h, List.flatMap_append, List.flatMap_cons, List.filter_append,
    List.filter_append, hown, filter_findings_eq_nil hbefore,
    filter_findings_eq_nil (List.nodup_cons.mp hbehind).1, List.nil_append, List.append_nil]

/-- The text of a data file that can be read spells its forms. -/
theorem FileTree.readAll_of_readForms {t : FileTree} {file text : String} {forms : List Datum}
    (h : t.readForms file = .ok (text, forms)) : readAll text = .ok forms := by
  rw [readForms] at h
  obtain ⟨text', -, h⟩ := exists_of_bind_eq_ok h
  obtain ⟨forms', hforms, h⟩ := exists_of_bind_eq_ok h
  cases h
  exact eq_ok_of_mapError hforms

/-! ## What is printed -/

/-- A finding as a line of text. -/
def Finding.lineText (r : Finding) : String :=
  r.file ++ (r.line.elim "" fun n => ":" ++ toString n) ++ " " ++ r.source ++ "\n"

/-- What is printed of the findings in so many files. -/
def Finding.printed (style : Command.SearchStyle) (files : Nat) (found : List Finding) : String :=
  match style with
  | .count => toString found.length ++ "\n"
  | .json =>
    if found.isEmpty then "[]\n"
    else "[\n" ++ ",\n".intercalate (found.map Finding.jsonText) ++ "\n]\n"
  | .lines =>
    String.join (found.map Finding.lineText) ++ "\n" ++ toString found.length ++ " match(es) in " ++
      toString files ++ " file(s)\n"

theorem Finding.lineText_eq (r : Finding) : r.lineText = r.display ++ "\n" := by
  obtain ⟨file, line, place, source⟩ := r
  cases line <;> rfl

theorem Command.showFindings_eq (style : SearchStyle) (files : Nat) (found : List Finding) :
    showFindings style files found = Finding.printed style files found := by
  have hnil : lines [] = "" := rfl
  cases style with
  | count => rw [showFindings, lines_cons, hnil, String.append_empty, Finding.printed]
  | json =>
    have hobjects : (found.map Finding.fields).map Json.object = found.map Finding.jsonText := by
      rw [List.map_map]
      exact List.map_congr_left fun r _ => r.object_fields
    rw [showFindings, lines_cons, hnil, String.append_empty, Json.objects, hobjects,
      List.isEmpty_map, Finding.printed]
    split
    · rfl
    · exact String.append_assoc
  | lines =>
    have hfound : lines (found.map Finding.display) =
        String.join (found.map Finding.lineText) := by
      rw [lines, List.map_map]
      exact congrArg String.join (List.map_congr_left fun r _ => r.lineText_eq.symm)
    have hend : " file(s)" ++ "\n" = " file(s)\n" := rfl
    have hnumbers : s!"{found.length} match(es) in {files} file(s)" ++ "\n" =
        toString found.length ++ " match(es) in " ++ toString files ++ " file(s)\n" := by
      rw [← hend, ← String.append_assoc]
      rfl
    rw [showFindings, lines_append, hfound, lines_cons, lines_cons, hnil, hnumbers, Finding.printed]
    simp only [String.append_assoc, String.empty_append, String.append_empty]

/-- A search prints what it finds. -/
theorem Command.out_search {t : FileTree} {pattern : String} {p : Pattern}
    {arguments : List String} {found : List Finding} (hpattern : readPattern pattern = .ok p)
    (hfound : t.findings p (t.dataFiles arguments) = .ok found) (style : SearchStyle) :
    (search t pattern arguments style).out =
      showFindings style (t.dataFiles arguments).length found := by
  have hout : findIn t pattern arguments style =
      .ok (showFindings style (t.dataFiles arguments).length found) := by
    rw [findIn, hpattern]
    show ((t.findings p (t.dataFiles arguments)).mapError Failure.file >>= _) = _
    rw [hfound]
    rfl
  rw [search, hout]

/-- The place of a finding is printed as it is. -/
theorem FileTree.string_place {t : FileTree} {p : Pattern} {names : List String}
    {found : List Finding} (h : t.findings p names = .ok found) {r : Finding} (hr : r ∈ found) :
    Json.string r.place = "\"" ++ r.place ++ "\"" := by
  rw [findings_eq_flatMap h] at hr
  obtain ⟨name, -, hr⟩ := List.mem_flatMap.mp hr
  rw [fileFindings_eq] at hr
  obtain ⟨hit, -, rfl⟩ := List.mem_map.mp hr
  exact string_formPlace hit.1.1 hit.1.2

/-- **Findings have their places.** What a search reports of a data file are its findings, also
where it searches other files with it, and it prints what it reports (`Finding.printed`): in JSON
every finding is an object, with the place as it is, and the objects of two findings differ. The
places of the findings, read back, increase, so no two of them have one text. Each leads to the
node whose line and source are reported, in the form with that number among all forms of the
text, and every node of a form that satisfies the pattern is reported with its place. -/
theorem FileTree.findings_placed {t : FileTree} {file text : String} {forms : List Datum}
    (hread : t.readForms file = .ok (text, forms)) (p : Pattern) :
    let reports := fileFindings file p forms
    readAll text = .ok forms ∧ t.findings p [file] = .ok reports ∧
    (∀ arguments found, t.findings p (t.dataFiles arguments) = .ok found →
      (file ∈ t.dataFiles arguments → found.filter (fun r => r.file = file) = reports) ∧
      (∀ pattern style, Command.readPattern pattern = .ok p →
        (Command.search t pattern arguments style).out =
          Command.showFindings style (t.dataFiles arguments).length found) ∧
      (∀ style files, Command.showFindings style files found =
        Finding.printed style files found) ∧
      ∀ r ∈ found, Json.string r.place = "\"" ++ r.place ++ "\"") ∧
    (∀ a b : Finding, a.jsonText = b.jsonText → a = b) ∧
    (∃ places : List (Nat × Path), reports.map (fun r => readPlace? r.place) = places.map some ∧
      places.Pairwise (Prod.Lex (· < ·) (· < ·))) ∧
    (reports.map Finding.place).Nodup ∧
    (∀ i j q r, formPlace i q = formPlace j r → i = j ∧ q = r) ∧
    (∀ r ∈ reports, ∃ i q form m, readPlace? r.place = some (i, q) ∧ forms[i]? = some form ∧
      form.at? q = some m ∧ p.satisfiesNode m = true ∧
      r = ⟨file, m.line, formPlace i q, m.source⟩) ∧
    ∀ i q form m, forms[i]? = some form → form.at? q = some m → p.satisfiesNode m = true →
      ⟨file, m.line, formPlace i q, m.source⟩ ∈ reports := by
  intro reports
  have hreports : reports = (fileMatches p forms).map (Finding.ofMatch file) :=
    fileFindings_eq file p forms
  have hforms : t.formsOf file = forms := by rw [formsOf, hread]
  have hincrease : ((fileMatches p forms).map Prod.fst).Pairwise (Prod.Lex (· < ·) (· < ·)) :=
    List.pairwise_map.mpr (fileMatches_pairwise p forms)
  refine ⟨readAll_of_readForms hread, ?_, ?_, fun _ _ => Finding.jsonText_injective,
    ⟨(fileMatches p forms).map Prod.fst, ?_, hincrease⟩,
    nodup_places file p forms, fun i j q r => formPlace_injective, ?_, ?_⟩
  · rw [findings, hread]
    show Except.ok (reports ++ []) = _
    rw [List.append_nil]
  · intro arguments found hfound
    refine ⟨fun hfile => ?_, fun pattern style hpattern => ?_,
      fun style files => Command.showFindings_eq style files found, fun r hr => string_place hfound hr⟩
    · rw [findings_of_file hfound (t.nodup_dataFiles arguments) hfile, hforms]
    · exact Command.out_search hpattern hfound style
  · rw [hreports, List.map_map, List.map_map]
    exact List.map_congr_left fun hit _ => readPlace?_formPlace hit.1.1 hit.1.2
  · intro r hr
    rw [hreports] at hr
    obtain ⟨⟨⟨i, q⟩, m⟩, hhit, rfl⟩ := List.mem_map.mp hr
    obtain ⟨form, hform, hat, hp⟩ := mem_fileMatches.mp hhit
    exact ⟨i, q, form, m, readPlace?_formPlace i q, hform, hat, hp, rfl⟩
  · intro i q form m hform hat hp
    rw [hreports]
    exact List.mem_map.mpr ⟨((i, q), m), mem_fileMatches.mpr ⟨form, hform, hat, hp⟩, rfl⟩

/-- A file with an atom in front and a node twice in one form, searched beside another file. -/
theorem FileTree.findings_placed_twice :
    let t : FileTree := ⟨[], [(["d.sexp"], "x\n(a\n (a) (a)) (a)".toUTF8),
      (["e.sexp"], "(b (a))".toUTF8)], []⟩
    let p : Pattern := .tagged (.sym "a")
    let forms : List Datum := [.sym "x",
      .list (some 2) [.sym "a", .list (some 3) [.sym "a"], .list (some 3) [.sym "a"]],
      .list (some 3) [.sym "a"]]
    let object (file line path source : String) : String :=
      "  \x7b\n    \"file\": \"" ++ file ++ "\",\n    \"line\": " ++ line ++
        ",\n    \"path\": \"" ++ path ++ "\",\n    \"source\": \"" ++ source ++ "\"\n  \x7d"
    t.readForms "d.sexp" = .ok ("x\n(a\n (a) (a)) (a)", forms) ∧
      (fileFindings "d.sexp" p forms).map Finding.place = ["1/", "1/1", "1/2", "2/"] ∧
      (∃ found, t.findings p (t.dataFiles ["e.sexp", "d.sexp"]) = .ok found ∧ found.length = 5 ∧
        found.filter (fun r => r.file = "d.sexp") = fileFindings "d.sexp" p forms) ∧
      (Command.search t "[t a]" ["e.sexp", "d.sexp"] .json).out =
        "[\n" ++ object "d.sexp" "2" "1/" "(a (a) (a))" ++ ",\n" ++
          object "d.sexp" "3" "1/1" "(a)" ++ ",\n" ++ object "d.sexp" "3" "1/2" "(a)" ++ ",\n" ++
          object "d.sexp" "3" "2/" "(a)" ++ ",\n" ++ object "e.sexp" "1" "0/1" "(a)" ++ "\n]\n" := by
  intro t p forms object
  have hread : t.readForms "d.sexp" = .ok ("x\n(a\n (a) (a)) (a)", forms) := by rfl
  have hfiles : t.dataFiles ["e.sexp", "d.sexp"] = ["d.sexp", "e.sexp"] := by decide +kernel
  have hfound : t.findings p ["d.sexp", "e.sexp"] = .ok (fileFindings "d.sexp" p forms ++
      fileFindings "e.sexp" p (t.formsOf "e.sexp")) := by rfl
  obtain ⟨-, -, hsearch, -⟩ := findings_placed hread p
  obtain ⟨hown, -⟩ := hsearch ["e.sexp", "d.sexp"] _ (hfiles ▸ hfound)
  exact ⟨hread, by decide +kernel, ⟨_, hfiles ▸ hfound, by decide +kernel, hown (by decide +kernel)⟩,
    by decide +kernel⟩

end SexprQuery
