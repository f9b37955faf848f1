import SexprQuery.Regex.Meaning

/-!
# Names in Unicode classes

No property, value or category has a backslash in its name, so a class that is asked for
with one has no meaning (`set?_unicodeQuery_of_backslash`).
-/

namespace SexprQuery

/-! ## Parts of a text -/

theorem mem_of_mem_extract {s : String} {b e : String.Pos.Raw} {c : Char}
    (h : c ∈ (String.Pos.Raw.extract s b e).toList) : c ∈ s.toList := by
  have htake (cs : List Char) (i e : String.Pos.Raw)
      (h : c ∈ String.Pos.Raw.extract.go₂ cs i e) : c ∈ cs := by
    induction cs generalizing i with
    | nil => exact absurd h List.not_mem_nil
    | cons d ds ih =>
      change c ∈ (if i = e then [] else d :: String.Pos.Raw.extract.go₂ ds (i + d) e) at h
      split at h
      · cases h
      · rcases List.mem_cons.mp h with rfl | h
        · exact List.mem_cons_self
        · exact List.mem_cons_of_mem d (ih _ h)
  have hdrop (cs : List Char) (i b e : String.Pos.Raw)
      (h : c ∈ String.Pos.Raw.extract.go₁ cs i b e) : c ∈ cs := by
    induction cs generalizing i with
    | nil => exact absurd h List.not_mem_nil
    | cons d ds ih =>
      change c ∈ (if i = b then String.Pos.Raw.extract.go₂ (d :: ds) i e
        else String.Pos.Raw.extract.go₁ ds (i + d) b e) at h
      split at h
      · exact htake _ _ _ h
      · exact List.mem_cons_of_mem d (ih _ h)
  unfold String.Pos.Raw.extract at h
  dsimp only at h
  split at h
  · simp at h
  · rw [String.toList_ofList] at h
    exact hdrop _ _ _ _ h

/-- The parts of a text that is split hold no other characters. -/
theorem mem_of_mem_splitOn {s sep part : String} (hpart : part ∈ s.splitOn sep) {c : Char}
    (hc : c ∈ part.toList) : c ∈ s.toList := by
  have haux (b i j : String.Pos.Raw) (r : List String)
      (hr : ∀ p ∈ r, ∀ c ∈ p.toList, c ∈ s.toList) :
      ∀ p ∈ String.splitOnAux s sep b i j r, ∀ c ∈ p.toList, c ∈ s.toList := by
    fun_induction String.splitOnAux s sep b i j r with
    | case1 b i j r hend =>
      intro p hp c hc
      rcases List.mem_cons.mp (List.mem_reverse.mp hp) with rfl | hp
      · exact mem_of_mem_extract hc
      · exact hr p hp c hc
    | case2 b i j r hend heq i' j' hsep ih =>
      refine ih fun p hp c hc => ?_
      rcases List.mem_cons.mp hp with rfl | hp
      · exact mem_of_mem_extract hc
      · exact hr p hp c hc
    | case3 b i j r hend heq i' j' hsep ih => exact ih hr
    | case4 b i j r hend heq ih => exact ih hr
  rw [String.splitOn] at hpart
  split at hpart
  · rwa [List.mem_singleton.mp hpart] at hc
  · exact haux 0 0 0 [] (by simp) part hpart c hc

namespace Unicode

/-! ## Names as they are compared -/

theorem toLower_eq_backslash {c : Char} (h : c.toLower = '\\') : c = '\\' := by
  unfold Char.toLower at h
  split at h
  · next hc =>
    -- what becomes a small letter is none
    have hlow := UInt32.le_iff_toNat_le.mp hc.1
    have hhigh := UInt32.le_iff_toNat_le.mp hc.2
    have hval := congrArg UInt32.toNat (congrArg Char.val h)
    have ha : 'A'.val.toNat = 65 := rfl
    have hz : 'Z'.val.toNat = 90 := rfl
    have hshift : ('a'.val - 'A'.val).toNat = 32 := rfl
    have hbackslash : '\\'.val.toNat = 92 := rfl
    rw [UInt32.toNat_add, hshift, hbackslash] at hval
    omega
  · exact h

/-- The characters that are compared, made small. -/
def keptChars (body : List Char) : List Char :=
  (body.filter fun c => c.toNat ≤ 0x7F && c != ' ' && c != '_' && c != '-').map Char.toLower

theorem backslash_mem_keptChars {body : List Char} :
    '\\' ∈ keptChars body ↔ '\\' ∈ body := by
  constructor
  · intro h
    obtain ⟨c, hc, hlower⟩ := List.mem_map.mp h
    rw [← toLower_eq_backslash hlower]
    exact (List.mem_filter.mp hc).1
  · intro h
    exact List.mem_map.mpr ⟨'\\', List.mem_filter.mpr ⟨h, by decide⟩, by decide⟩

/-- What is compared is a name without the `is` in front of it, but for the name `isc`. -/
theorem plainName_spec (name : String) :
    ∃ front body, name.toList = front ++ body ∧ '\\' ∉ front ∧
      (plainName name = String.ofList (keptChars body) ∨
        plainName name = "isc" ∧ keptChars body = ['c']) := by
  have hwhole (hasIs : Bool) (body : List Char) :
      (if hasIs && keptChars body = ['c'] then "isc" else String.ofList (keptChars body)) =
          String.ofList (keptChars body) ∨
        (if hasIs && keptChars body = ['c'] then "isc" else String.ofList (keptChars body)) =
          "isc" ∧ keptChars body = ['c'] := by
    split
    · next h =>
      rw [Bool.and_eq_true, decide_eq_true_eq] at h
      exact .inr ⟨rfl, h.2⟩
    · exact .inl rfl
  unfold plainName
  dsimp only
  generalize name.toList = cs
  split
  · next a b rest =>
    split
    · next his =>
      refine ⟨[a, b], rest, rfl, ?_, hwhole true rest⟩
      rw [List.mem_cons, List.mem_singleton]
      rintro (rfl | rfl)
      · exact absurd his.1 (by decide)
      · exact absurd his.2 (by decide)
    · exact ⟨[], _, rfl, List.not_mem_nil, hwhole false _⟩
  · exact ⟨[], _, rfl, List.not_mem_nil, hwhole false _⟩

/-- A backslash is compared like any other character. -/
theorem backslash_mem_plainName {name : String} :
    '\\' ∈ (plainName name).toList ↔ '\\' ∈ name.toList := by
  obtain ⟨front, body, hname, hfront, hplain | ⟨hplain, hbody⟩⟩ := plainName_spec name
  · rw [hplain, hname, String.toList_ofList, backslash_mem_keptChars, List.mem_append]
    exact ⟨.inr, fun h => h.resolve_left hfront⟩
  · have hmem : '\\' ∉ body := by
      rw [← backslash_mem_keptChars, hbody]
      decide
    rw [hplain, hname, List.mem_append]
    exact ⟨fun h => absurd h (by decide), fun h => absurd h (by simp [hfront, hmem])⟩

/-! ## Names in the tables -/

/-- None of the names holds a backslash. -/
def LackBackslash (names : List String) : Prop := ∀ name ∈ names, '\\' ∉ name.toList

theorem lackBackslash_nil : LackBackslash [] := nofun

theorem LackBackslash.cons {cs : List Char} (hcs : cs.contains '\\' = false)
    {names : List String} (h : LackBackslash names) : LackBackslash (String.ofList cs :: names) := by
  intro name hname
  rcases List.mem_cons.mp hname with rfl | hname
  · rw [String.toList_ofList, ← List.contains_iff_mem, hcs]
    exact Bool.false_ne_true
  · exact h name hname

theorem LackBackslash.contains_eq {names : List String} (h : LackBackslash names) {name : String}
    (hname : '\\' ∈ name.toList) : names.contains name = false := by
  rw [List.contains_eq_mem, decide_eq_false_iff_not]
  exact fun hmem => h name hmem hname

/-- The same for all properties of a table. -/
def NamesLackBackslash (ps : List Property) : Prop := ∀ p ∈ ps, LackBackslash p.names

theorem namesLackBackslash_nil : NamesLackBackslash [] := nofun

theorem NamesLackBackslash.cons {p : Property} (hp : LackBackslash p.names) {ps : List Property}
    (h : NamesLackBackslash ps) : NamesLackBackslash (p :: ps) := List.forall_mem_cons.mpr ⟨hp, h⟩

theorem namesLackBackslash_properties : NamesLackBackslash properties := by
  -- a name at a time, here and below: the kernel is slow to take a whole table apart
  unfold properties
  repeat' first
    | exact namesLackBackslash_nil
    | exact lackBackslash_nil
    | refine NamesLackBackslash.cons ?_ ?_
    | refine LackBackslash.cons rfl ?_

theorem propertyNamed?_of_backslash {name : String} (h : '\\' ∈ name.toList) :
    propertyNamed? name = none := by
  have hlookUp (ps : List Property) (hps : NamesLackBackslash ps) :
      lookUp? (fun _ => none) ps name = none := by
    induction ps with
    | nil => rfl
    | cons p ps ih =>
      obtain ⟨hp, hps⟩ := List.forall_mem_cons.mp hps
      rw [lookUp?]
      dsimp only
      rw [hp.contains_eq h, if_neg Bool.false_ne_true]
      exact ih hps
  exact hlookUp _ fun p hp => namesLackBackslash_properties p (List.mem_reverse.mp hp)

theorem lackBackslash_categoryNames : ∀ entry ∈ categoryNames, LackBackslash entry.2 := by
  unfold categoryNames
  repeat' first
    | exact lackBackslash_nil
    | refine LackBackslash.cons rfl ?_
    | refine List.forall_mem_cons.mpr ⟨?_, ?_⟩
  exact List.forall_mem_nil _

theorem categoryNamed?_of_backslash {name : String} (h : '\\' ∈ name.toList) :
    categoryNamed? name = none := by
  have hwords : LackBackslash ["any", "ascii", "assigned"] :=
    .cons rfl (.cons rfl (.cons rfl lackBackslash_nil))
  have hword := hwords.contains_eq h
  simp only [List.contains_cons, List.contains_nil, Bool.or_eq_false_iff,
    beq_eq_false_iff_ne] at hword
  rw [categoryNamed?, if_neg hword.1, if_neg hword.2.1, if_neg hword.2.2.1, Option.map_eq_none_iff,
    List.find?_eq_none]
  intro entry hentry
  rw [(lackBackslash_categoryNames entry hentry).contains_eq h]
  exact Bool.false_ne_true

theorem lackBackslash_scriptNames : LackBackslash scriptNames := by
  unfold scriptNames
  repeat' refine LackBackslash.cons rfl ?_
  exact lackBackslash_nil

theorem scriptNamed?_of_backslash {name : String} (h : '\\' ∈ name.toList) :
    scriptNamed? name = none := by
  rw [scriptNamed?, List.findSome?_eq_none_iff]
  intro entry hentry
  obtain ⟨line, hline, hentry⟩ := List.mem_flatMap.mp hentry
  have hnone : ((entry.splitOn ":").any fun s => plainName s = name) = false := by
    rw [List.any_eq_false]
    intro s hs hname
    rw [← of_decide_eq_true hname] at h
    have hmem := mem_of_mem_splitOn hentry (mem_of_mem_splitOn hs (backslash_mem_plainName.mp h))
    exact lackBackslash_scriptNames line hline hmem
  dsimp only
  rw [hnone, if_neg Bool.false_ne_true]

theorem lackBackslash_ages : LackBackslash ages := by
  unfold ages
  repeat' refine LackBackslash.cons rfl ?_
  exact lackBackslash_nil

theorem LackBackslash.ageSpellings {age : String} (h : '\\' ∉ age.toList) :
    LackBackslash (Unicode.ageSpellings age) := by
  refine List.forall_mem_cons.mpr ⟨h, List.forall_mem_singleton.mpr ?_⟩
  rw [String.toList_ofList, List.mem_cons, not_or]
  exact ⟨by decide, fun hmem => h (List.mem_filter.mp hmem).1⟩

theorem ageNamed?_of_backslash {name : String} (h : '\\' ∈ name.toList) :
    ageNamed? name = none := by
  have hnone : ∀ age ∈ ages, (!(ageSpellings age).contains name) = true := fun age hage =>
    congrArg (!·) ((LackBackslash.ageSpellings (lackBackslash_ages age hage)).contains_eq h)
  have hall : (ages ++ []).takeWhile (fun age => !(ageSpellings age).contains name) = ages ++ [] :=
    List.takeWhile_append_of_pos hnone
  rw [List.append_nil] at hall
  unfold ageNamed?
  dsimp only
  rw [hall, if_pos rfl]

theorem namesLackBackslash_breaks : NamesLackBackslash graphemeBreaks ∧
    NamesLackBackslash wordBreaks ∧ NamesLackBackslash sentenceBreaks := by
  unfold graphemeBreaks wordBreaks sentenceBreaks
  refine ⟨?_, ?_, ?_⟩
  all_goals
    repeat' first
      | exact namesLackBackslash_nil
      | exact lackBackslash_nil
      | refine NamesLackBackslash.cons ?_ ?_
      | refine LackBackslash.cons rfl ?_

theorem kindNamed?_of_backslash {kinds : List Property} (hkinds : NamesLackBackslash kinds)
    {name : String} (h : '\\' ∈ name.toList) : kindNamed? kinds name = none := by
  refine if_neg ?_
  rw [Bool.not_eq_true, List.any_eq_false]
  intro kind hkind
  rw [(hkinds kind hkind).contains_eq h]
  exact Bool.false_ne_true

theorem graphemeBreakNamed?_of_backslash {name : String} (h : '\\' ∈ name.toList) :
    graphemeBreakNamed? name = none := by
  have hwords : LackBackslash ["lv", "lvt"] := .cons rfl (.cons rfl lackBackslash_nil)
  have hword := hwords.contains_eq h
  simp only [List.contains_cons, List.contains_nil, Bool.or_eq_false_iff,
    beq_eq_false_iff_ne] at hword
  rw [graphemeBreakNamed?, if_neg hword.1, if_neg hword.2.1]
  exact kindNamed?_of_backslash namesLackBackslash_breaks.1 h

end Unicode

namespace Regex

open Unicode

/-! ## Queries -/

theorem UnicodeQuery.set?_name_of_backslash {name : String} (h : '\\' ∈ name.toList) :
    (UnicodeQuery.name name).set? = none := by
  have hplain := backslash_mem_plainName.mpr h
  unfold UnicodeQuery.set?
  dsimp only
  rw [propertyNamed?_of_backslash hplain, categoryNamed?_of_backslash hplain,
    scriptNamed?_of_backslash hplain]
  split <;> rfl

theorem UnicodeQuery.set?_value_of_backslash {property wanted : String}
    (h : '\\' ∈ property.toList ∨ '\\' ∈ wanted.toList) :
    (UnicodeQuery.value property wanted).set? = none := by
  unfold UnicodeQuery.set?
  dsimp only
  rcases h with h | h
  · have hplain := backslash_mem_plainName.mpr h
    have hwords : LackBackslash ["gc", "generalcategory", "sc", "script", "scx",
        "scriptextensions", "age", "gcb", "graphemeclusterbreak", "wb", "wordbreak", "sb",
        "sentencebreak"] := by
      repeat' refine LackBackslash.cons rfl ?_
      exact lackBackslash_nil
    have hnone := hwords.contains_eq hplain
    simp only [List.contains_cons, List.contains_nil, Bool.or_eq_false_iff,
      beq_eq_false_iff_ne, ne_eq] at hnone
    simp only [hnone, or_false, if_false]
  · have hplain := backslash_mem_plainName.mpr h
    rw [categoryNamed?_of_backslash hplain, scriptNamed?_of_backslash hplain,
      ageNamed?_of_backslash hplain, graphemeBreakNamed?_of_backslash hplain,
      wordBreakNamed?, kindNamed?_of_backslash namesLackBackslash_breaks.2.1 hplain,
      sentenceBreakNamed?, kindNamed?_of_backslash namesLackBackslash_breaks.2.2 hplain]
    repeat' split
    all_goals rfl

theorem mem_of_cutAt? {sign cs before behind : List Char} {c : Char}
    (h : cutAt? sign cs = some (before, behind)) (hc : c ∈ cs) :
    c ∈ before ∨ c ∈ sign ∨ c ∈ behind := by
  induction cs generalizing before with
  | nil => cases hc
  | cons d ds ih =>
    rw [cutAt?] at h
    split at h
    · next hprefix =>
      cases h
      obtain ⟨rest, hrest⟩ := List.isPrefixOf_iff_prefix.mp hprefix
      rw [← hrest, List.mem_append] at hc
      rw [← hrest, List.drop_left]
      exact .inr hc
    · obtain ⟨⟨before', behind'⟩, hcut, hbefore⟩ := Option.map_eq_some_iff.mp h
      cases hbefore
      rcases List.mem_cons.mp hc with rfl | hc
      · exact .inl List.mem_cons_self
      · exact (ih hcut hc).imp_left (List.mem_cons_of_mem d)

/-- A query with a backslash in it asks for nothing there is. -/
theorem set?_unicodeQuery_of_backslash {name : String} (h : '\\' ∈ name.toList) :
    (unicodeQuery name).1.set? = none := by
  have hcut (sign : String) (hsign : '\\' ∉ sign.toList) (p v : String)
      (hpv : (cutAt? sign.toList name.toList).map (Prod.map String.ofList String.ofList) =
        some (p, v)) : (UnicodeQuery.value p v).set? = none := by
    obtain ⟨⟨before, behind⟩, hparts, heq⟩ := Option.map_eq_some_iff.mp hpv
    cases heq
    refine UnicodeQuery.set?_value_of_backslash ?_
    rw [String.toList_ofList, String.toList_ofList]
    exact (mem_of_cutAt? hparts h).imp_right fun hmem => hmem.resolve_left hsign
  unfold unicodeQuery
  dsimp only
  split
  · next p v hpv => exact hcut "!=" (by decide) p v hpv
  split
  · next p v hpv => exact hcut ":" (by decide) p v hpv
  split
  · next p v hpv => exact hcut "=" (by decide) p v hpv
  · exact UnicodeQuery.set?_name_of_backslash h

end Regex
end SexprQuery
