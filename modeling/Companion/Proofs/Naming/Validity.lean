import Companion.Proofs.Naming.Choices
import Companion.Proofs.Text.Casing

/-!
# Parameters as identifiers

A property that is an identifier stays one with an addition, with a number, and when a reserved word
is escaped. Lower camel case is another matter: it drops what stands before the first letter or
number, and it can bring marks into the name. The first is provided for only if a digit of the basic
alphabet comes to the front, and the second not at all. `isIdentifier_parameterNames_iff` says which
properties have parameters that are identifiers; all that are written in the basic alphabet do.
-/

namespace Companion.Naming

open Text

variable {property : String} {properties : List String} {cs : List Char}

/-! ## Names with an addition -/

theorem isWordChar_of_isDigit {c : Char} (h : c.isDigit = true) : isWordChar c = true := by
  rw [isWordChar, isAlphanumeric_of_isDigit h, Bool.true_or]

theorem isWordChar_of_mem_numberDigits {k : Nat} :
    ∀ c ∈ numberDigits k, isWordChar c = true :=
  fun _ hc => isWordChar_of_isDigit (isDigit_of_mem_numberDigits hc)

theorem ne_nil_of_isWord (h : isWord cs = true) : cs ≠ [] := by
  rintro rfl
  cases h

theorem isIdentifier_numbered_value (h : isIdentifier property = true) (k : Nat) :
    isIdentifier (escapeKeyword (numbered (property ++ "_value") k)) = true := by
  have hlist : (numbered (property ++ "_value") k).toList =
      property.toList ++ ("_value".toList ++ numberDigits k) := by
    rw [toList_numbered, String.toList_append, List.append_assoc]
  have hvalue : "_value".toList.all isWordChar = true := by decide +kernel
  have hmore : ∀ c ∈ "_value".toList ++ numberDigits k, isWordChar c = true :=
    List.forall_mem_append.mpr ⟨List.all_eq_true.mp hvalue, isWordChar_of_mem_numberDigits⟩
  have hunderscore : '_' ∈ (numbered (property ++ "_value") k).toList := by simp [hlist]
  rw [escapeKeyword_of_mem hunderscore (by decide)]
  by_cases hmark : property.toList.head? = some '@'
  · obtain ⟨body, hbody⟩ := List.head?_eq_some_iff.mp hmark
    rw [isIdentifier_of_mark hbody] at h
    rw [hbody, List.cons_append] at hlist
    rw [isIdentifier_of_mark hlist, isWord_append (ne_nil_of_isWord h) hmore, h]
  · rw [isIdentifier_of_head? hmark, Bool.and_eq_true] at h
    have hne := ne_nil_of_isWord h.1
    have hstart : (numbered (property ++ "_value") k).toList.head? ≠ some '@' := by
      rwa [hlist, List.head?_append_of_ne_nil _ hne]
    rw [isIdentifier_of_head? hstart, hlist, isWord_append hne hmore, h.1,
      isKeyword_of_mem hunderscore (by decide)]
    rfl

/-! ## Names in lower camel case -/

theorem isIdentifier_numbered_of_head? (hne : cs ≠ []) (hmark : cs.head? ≠ some '@') (k : Nat) :
    isIdentifier (escapeKeyword (numbered (String.ofList cs) k)) = isWord cs := by
  have hlist : (numbered (String.ofList cs) k).toList = cs ++ numberDigits k := by
    rw [toList_numbered, String.toList_ofList]
  have hstart : (numbered (String.ofList cs) k).toList.head? ≠ some '@' := by
    rwa [hlist, List.head?_append_of_ne_nil _ hne]
  rw [isIdentifier_escapeKeyword hstart, hlist, isWord_append hne isWordChar_of_mem_numberDigits]

theorem isWord_iff_of_not_mem (h : '_' ∉ cs) :
    isWord cs = true ↔
      (∃ c, cs.head? = some c ∧ isAlphabetic c = true) ∧ cs.all isAlphanumeric = true := by
  cases cs with
  | nil => simp [isWord]
  | cons c rest =>
    obtain ⟨hc, hrest⟩ := not_or.mp (mt List.mem_cons.mpr h)
    have hstart : (isAlphabetic c || c = '_') = isAlphabetic c := by simp [Ne.symm hc]
    have hall : rest.all isWordChar = true ↔ rest.all isAlphanumeric = true := by
      rw [List.all_eq_true, List.all_eq_true]
      refine forall₂_congr fun d hd => ?_
      have hne : d ≠ '_' := fun heq => hrest (heq ▸ hd)
      simp [isWordChar, hne]
    have hword : isWord (c :: rest) = ((isAlphabetic c || c = '_') && rest.all isWordChar) := rfl
    rw [hword, hstart, Bool.and_eq_true, hall, List.all_cons, Bool.and_eq_true]
    constructor
    · rintro ⟨hletter, hmore⟩
      exact ⟨⟨c, rfl, hletter⟩, isAlphanumeric_of_isAlphabetic hletter, hmore⟩
    · rintro ⟨⟨d, hd, hletter⟩, -, hmore⟩
      cases hd
      exact ⟨hletter, hmore⟩

/-- Lower camel case makes a word of the name: its first letter or number is a letter, and changing
the case brings in no marks. -/
structure CasesToWord (name : List Char) : Prop where
  start : ∃ c, name.find? isAlphanumeric = some c ∧ isAlphabetic c = true
  within : CasedWithinLetters name

theorem isWord_lowerCamel_iff (name : List Char) :
    isWord (lowerCamel name) = true ↔ CasesToWord name := by
  have hstart : (∃ d, (lowerCamel name).head? = some d ∧ isAlphabetic d = true) ↔
      ∃ c, name.find? isAlphanumeric = some c ∧ isAlphabetic c = true := by
    cases hfind : name.find? isAlphanumeric with
    | none => simp [lowerCamel_of_find?_eq_none hfind]
    | some c =>
      obtain ⟨d, rest, hlower, hclass, -⟩ := exists_lowerCamel_of_find? hfind
      simp [hlower, hclass]
  rw [isWord_iff_of_not_mem (not_mem_lowerCamel_stem name).2, all_lowerCamel_iff, hstart]
  exact ⟨fun h => ⟨h.1, h.2⟩, fun h => ⟨h.start, h.within⟩⟩

/-! ## Parameters -/

/-- Lower camel case would leave nothing of the name or put a digit of the basic alphabet in front,
so the parameter is spelled as the property is. -/
def keepsSpelling (property : String) : Bool :=
  (property.toList.find? isAlphanumeric).all Char.isDigit

theorem exists_of_keepsSpelling_eq_false (h : keepsSpelling property = false) :
    ∃ c, property.toList.find? isAlphanumeric = some c ∧ c.isDigit = false := by
  unfold keepsSpelling at h
  cases hfind : property.toList.find? isAlphanumeric with
  | none => simp [hfind] at h
  | some c => exact ⟨c, rfl, by simpa [hfind] using h⟩

theorem parameterStem_of_keepsSpelling (h : keepsSpelling property = true) :
    parameterStem lowerCamel property = property ++ "_value" := by
  unfold keepsSpelling at h
  cases hfind : property.toList.find? isAlphanumeric with
  | none => simp [parameterStem, lowerCamel_of_find?_eq_none hfind]
  | some c =>
    obtain ⟨d, rest, hlower, -, hdigit⟩ := exists_lowerCamel_of_find? hfind
    rw [hfind, Option.all_some, ← hdigit] at h
    simp [parameterStem, hlower, h]

/-- Every choice for the parameter of a property is an identifier, or none is. -/
theorem isIdentifier_parameterChoice_iff (h : isIdentifier property = true) (k : Nat) :
    isIdentifier (parameterChoice lowerCamel property k) = true ↔
      keepsSpelling property = true ∨ CasesToWord property.toList := by
  rw [← isWord_lowerCamel_iff, parameterChoice]
  cases hkeeps : keepsSpelling property with
  | true =>
    rw [parameterStem_of_keepsSpelling hkeeps]
    exact iff_of_true (isIdentifier_numbered_value h k) (.inl rfl)
  | false =>
    obtain ⟨c, hfind, hc⟩ := exists_of_keepsSpelling_eq_false hkeeps
    obtain ⟨d, rest, hlower, -, hdigit⟩ := exists_lowerCamel_of_find? hfind
    have hmark : (d :: rest).head? ≠ some '@' := by
      intro hhead
      apply (not_mem_lowerCamel_stem property.toList).1
      rw [hlower]
      exact List.mem_of_mem_head? hhead
    rw [parameterStem_of_cons hlower (hdigit.trans hc), hlower]
    split
    · next hsame =>
      -- the property is in lower camel case already, so it has no mark and is a word itself
      have hlist : property.toList = d :: rest := by rw [← hsame, String.toList_ofList]
      have hword := h
      rw [isIdentifier_of_head? (hlist ▸ hmark), hlist, Bool.and_eq_true] at hword
      exact iff_of_true (isIdentifier_numbered_value h k) (.inr hword.1)
    · rw [isIdentifier_numbered_of_head? (List.cons_ne_nil d rest) hmark]
      simp

/-- In the basic alphabet the only numbers are the digits, and every letter has a capital without
marks. -/
theorem keepsSpelling_or_casesToWord (h : ∀ c ∈ property.toList, c.toNat < 128) :
    keepsSpelling property = true ∨ CasesToWord property.toList := by
  cases hkeeps : keepsSpelling property with
  | true => exact .inl rfl
  | false =>
    obtain ⟨c, hfind, hc⟩ := exists_of_keepsSpelling_eq_false hkeeps
    have hletter : isAlphabetic c = true := by
      rcases isAlphabetic_or_isDigit (h c (List.mem_of_find?_eq_some hfind)) (List.find?_some hfind)
        with hletter | hdigit
      · exact hletter
      · rw [hc] at hdigit
        cases hdigit
    refine .inr ⟨⟨c, hfind, hletter⟩, casedWithinLetters_of_forall fun d hd hword => ⟨?_, ?_⟩⟩
    · rintro rfl
      exact absurd (h 'İ' hd) (by decide)
    · exact all_upper_of_lt (h d hd) hword

/-- Where the properties are identifiers, the parameters are identifiers exactly if for each
property either lower camel case is not used because of what it would put in front, or it makes a
word of the name. This is so whenever the properties are written in the basic alphabet. -/
theorem isIdentifier_parameterNames_iff
    (h : ∀ property ∈ properties, isIdentifier property = true) :
    ((∀ parameter ∈ parameterNames properties, isIdentifier parameter = true) ↔
      ∀ property ∈ properties,
        keepsSpelling property = true ∨ CasesToWord property.toList) ∧
    ((∀ property ∈ properties, ∀ c ∈ property.toList, c.toNat < 128) →
      ∀ parameter ∈ parameterNames properties, isIdentifier parameter = true) := by
  have hmpr (hcases : ∀ property ∈ properties,
      keepsSpelling property = true ∨ CasesToWord property.toList) :
      ∀ parameter ∈ parameterNames properties, isIdentifier parameter = true := by
    intro parameter hparameter
    obtain ⟨property, hproperty, k, -, rfl⟩ := exists_of_mem_parameterNamesFrom hparameter
    exact (isIdentifier_parameterChoice_iff (h property hproperty) k).mpr
      (hcases property hproperty)
  refine ⟨⟨fun hall property hproperty => ?_, hmpr⟩, fun hbasic => hmpr fun property hproperty =>
    keepsSpelling_or_casesToWord (hbasic property hproperty)⟩
  obtain ⟨i, hi⟩ := List.mem_iff_getElem?.mp hproperty
  obtain ⟨k, -, -, hparameter⟩ := exists_isFirstFree_parameterNamesFrom not_mem_lowerCamel_at hi
  exact (isIdentifier_parameterChoice_iff (h property hproperty) k).mp
    (hall _ (List.mem_of_getElem? hparameter))

/-- Names that lower camel case changes, leaves as they are, makes a reserved word of, or cannot be
used for. -/
theorem isIdentifier_parameterNames_basic :
    let properties := ["Name", "age", "Class", "Url", "URL", "@event", "_", "_1st"]
    (∀ property ∈ properties, isIdentifier property = true) ∧
      ∀ parameter ∈ parameterNames properties, isIdentifier parameter = true := by
  intro properties
  have hproperties : ∀ property ∈ properties, isIdentifier property = true := by decide +kernel
  have hbasic : ∀ property ∈ properties, property.toList.all (·.toNat < 128) = true := by
    decide +kernel
  refine ⟨hproperties, (isIdentifier_parameterNames_iff hproperties).2 fun property hproperty => ?_⟩
  simpa using hbasic property hproperty

/-- A digit of another alphabet comes to the front. -/
theorem parameter_of_fullwidthDigit_not_isIdentifier :
    isIdentifier "_３rd" = true ∧ parameterNames ["_３rd"] = ["３rd"] ∧
      isIdentifier "３rd" = false := by
  decide +kernel

end Companion.Naming
