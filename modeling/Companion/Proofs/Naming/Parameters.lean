import Companion.Naming
import Companion.Proofs.Code.Execution
import Companion.Proofs.Naming.Identifier
import Companion.Proofs.Naming.Unique
import Companion.Proofs.Text.Words

/-!
# Names of parameters are different

No two properties get the same parameter, unless they have the same name themselves. Names are
compared as the language does it, without the `@` that may stand in front of them: it is a part of
a parameter's name only where the whole name of the property is. Of lower camel case this takes
only that neither an `@` nor an underscore is left in a name.
-/

namespace Companion.Naming

open Code (plainName)

/-! ## Names without their mark -/

theorem plainName_of_mark {name : String} {rest : List Char} (h : name.toList = '@' :: rest) :
    plainName name = String.ofList rest := by
  simp only [plainName, h]

theorem plainName_of_head? {name : String} (h : name.toList.head? ≠ some '@') :
    plainName name = name := by
  unfold plainName
  split
  · next rest hname => simp [hname] at h
  · rfl

theorem toList_of_head? {name : String} (h : name.toList.head? = some '@') :
    name.toList = '@' :: (plainName name).toList := by
  obtain ⟨rest, hrest⟩ := List.head?_eq_some_iff.mp h
  rw [plainName_of_mark hrest, hrest, String.toList_ofList]

/-- Names that are the same without their marks are the same, or only one of them has a mark. -/
theorem plainName_inj {a b : String} (h : plainName a = plainName b) :
    a = b ∨ (a.toList = '@' :: b.toList ∧ b.toList.head? ≠ some '@') ∨
      (b.toList = '@' :: a.toList ∧ a.toList.head? ≠ some '@') := by
  by_cases ha : a.toList.head? = some '@' <;> by_cases hb : b.toList.head? = some '@'
  · left
    rw [← String.toList_inj, toList_of_head? ha, toList_of_head? hb, h]
  · refine .inr (.inl ⟨?_, hb⟩)
    rw [toList_of_head? ha, h, plainName_of_head? hb]
  · refine .inr (.inr ⟨?_, ha⟩)
    rw [toList_of_head? hb, ← h, plainName_of_head? ha]
  · left
    rw [← plainName_of_head? ha, ← plainName_of_head? hb, h]

/-- Escaping a reserved word does not make it another name. -/
theorem plainName_escapeKeyword (name : String) :
    plainName (escapeKeyword name) = plainName name := by
  by_cases hmark : name.toList.head? = some '@'
  · rw [escapeKeyword_of_mem (List.mem_of_mem_head? hmark) (by decide)]
  · unfold escapeKeyword
    split
    · have hescaped : ("@" ++ name).toList = '@' :: name.toList := by simp
      rw [plainName_of_mark hescaped, String.ofList_toList, plainName_of_head? hmark]
    · rfl

/-! ## Numbered names -/

/-- The digits behind the `k`-th choice for a name. -/
def numberDigits (k : Nat) : List Char := if k = 0 then [] else Nat.toDigits 10 k

theorem toList_numbered (name : String) (k : Nat) :
    (numbered name k).toList = name.toList ++ numberDigits k := by
  cases k with
  | zero => simp [numbered, numberDigits]
  | succ k => simp [numbered, numberDigits, Nat.toList_repr]

theorem isDigit_of_mem_numberDigits {k : Nat} {c : Char} (h : c ∈ numberDigits k) :
    c.isDigit = true := by
  unfold numberDigits at h
  split at h
  · cases h
  · exact Nat.isDigit_of_mem_toDigits (by decide) (by decide) h

theorem numberDigits_injective : Function.Injective numberDigits := by
  intro i j h
  have hne (k : Nat) : Nat.toDigits 10 k ≠ [] := Nat.toDigits_ne_nil
  unfold numberDigits at h
  split at h <;> split at h
  · omega
  · exact absurd h.symm (hne j)
  · exact absurd h (hne i)
  · rw [← Nat.ofDigitChars_ten_toDigits (n := i), h, Nat.ofDigitChars_ten_toDigits]

theorem numbered_injective (name : String) : Function.Injective (numbered name) := by
  intro i j h
  have hlist := congrArg String.toList h
  rw [toList_numbered, toList_numbered] at hlist
  exact numberDigits_injective (List.append_cancel_left hlist)

theorem fresh_eq {used : List String} {name : String} {k : Nat}
    (h : IsFirstFree (numbered name) used k) (hk : k ≤ used.length) :
    fresh used name = numbered name k := by
  rw [fresh, List.find?_map]
  exact congrArg (fun found => (found.map (numbered name)).getD name)
    (h.find?_range (Nat.lt_succ_of_le hk))

theorem fresh_spec (used : List String) (name : String) :
    fresh used name ∉ used ∧ ∃ k, fresh used name = numbered name k := by
  obtain ⟨k, hk, hfirst⟩ := exists_isFirstFree (numbered_injective name) used
  rw [fresh_eq hfirst hk]
  exact ⟨hfirst.free, k, rfl⟩

/-! ## Stems -/

variable {casing : List Char → List Char}

theorem parameterStem_of_cons {property : String} {c : Char} {rest : List Char}
    (hcased : casing property.toList = c :: rest) (hdigit : c.isDigit = false) :
    parameterStem casing property =
      if String.ofList (c :: rest) = property then property ++ "_value"
      else String.ofList (c :: rest) := by
  simp only [parameterStem, hcased, hdigit, Bool.not_false, if_true]
  split
  · next hsame => rw [hsame]
  · rfl

/-- A stem is the name as it is to be written, or the name with an addition. -/
theorem parameterStem_cases (casing : List Char → List Char) (property : String) :
    parameterStem casing property = property ++ "_value" ∨
      parameterStem casing property = String.ofList (casing property.toList) ∧
        casing property.toList ≠ [] := by
  cases hcased : casing property.toList with
  | nil => simp [parameterStem, hcased]
  | cons c rest =>
    cases hdigit : c.isDigit with
    | true => simp [parameterStem, hcased, hdigit]
    | false =>
      rw [parameterStem_of_cons hcased hdigit]
      split
      · exact .inl rfl
      · exact .inr ⟨rfl, List.cons_ne_nil c rest⟩

/-- Lower camel case leaves no mark in a name. -/
theorem not_mem_lowerCamel_stem (name : List Char) :
    '@' ∉ Text.lowerCamel name ∧ '_' ∉ Text.lowerCamel name :=
  ⟨Text.not_mem_lowerCamel Text.uncased_at (by decide) (by decide +kernel) name,
    Text.not_mem_lowerCamel Text.uncased_underscore (by decide) (by decide +kernel) name⟩

/-- Only the addition brings an underscore into a stem. -/
theorem parameterStem_of_underscore (hcasing : ∀ name, '_' ∉ casing name) {property : String}
    (h : '_' ∈ (parameterStem casing property).toList) :
    parameterStem casing property = property ++ "_value" := by
  rcases parameterStem_cases casing property with hstem | ⟨hstem, -⟩
  · exact hstem
  · rw [hstem, String.toList_ofList] at h
    exact absurd h (hcasing _)

/-- Only a property with a mark has a stem with one, and then the stem is its whole name. -/
theorem parameterStem_of_mark (hcasing : ∀ name, '@' ∉ casing name) {property : String} {k : Nat}
    (h : (numbered (parameterStem casing property) k).toList.head? = some '@') :
    parameterStem casing property = property ++ "_value" ∧ property.toList.head? = some '@' := by
  rw [toList_numbered] at h
  rcases parameterStem_cases casing property with hstem | ⟨hstem, hne⟩
  · refine ⟨hstem, ?_⟩
    rw [hstem, String.toList_append] at h
    cases hproperty : property.toList with
    | nil => simp [hproperty] at h
    | cons c rest => simpa [hproperty] using h
  · rw [hstem, String.toList_ofList] at h
    obtain ⟨c, rest, hcased⟩ := List.exists_cons_of_ne_nil hne
    obtain rfl : c = '@' := by simpa [hcased] using h
    exact absurd (by simp [hcased]) (hcasing property.toList)

/-! ## Parameters -/

/-- A number ends where the first character stands that is no digit. -/
theorem append_numberDigits_inj {l r : List Char} {c : Char} {i j : Nat} (hc : c.isDigit = false)
    (h : l ++ [c] ++ numberDigits i = r ++ [c] ++ numberDigits j) : l = r := by
  have hextends {a b more : List Char} {k k' : Nat} (hlist : a ++ [c] = b ++ [c] ++ more)
      (hdigits : numberDigits k = more ++ numberDigits k') : a = b := by
    rcases List.eq_nil_or_concat more with rfl | ⟨init, d, rfl⟩
    · simpa using hlist
    · have hd : d.isDigit = true := isDigit_of_mem_numberDigits (k := k) (by simp [hdigits])
      rw [List.concat_eq_append, ← List.append_assoc] at hlist
      obtain rfl : c = d := List.singleton_inj.mp (List.append_inj_right' hlist rfl)
      rw [hd] at hc
      cases hc
  rcases List.append_eq_append_iff.mp h with ⟨more, hlist, hdigits⟩ | ⟨more, hlist, hdigits⟩
  · exact (hextends hlist hdigits).symm
  · exact hextends hlist hdigits

/-- If the parameters of two properties are the same name, or would be without a mark, then so are
the properties. -/
theorem plainName_numbered_inj (hcasing : ∀ name, '@' ∉ casing name ∧ '_' ∉ casing name)
    {p q : String} {i j : Nat}
    (h : plainName (numbered (parameterStem casing p) i) =
      plainName (numbered (parameterStem casing q) j)) :
    numbered (parameterStem casing p) i = numbered (parameterStem casing q) j ∨
      plainName p = plainName q := by
  -- the case that only one of the two names has a mark
  have hmarked {p q : String} {i j : Nat}
      (hmark : (numbered (parameterStem casing p) i).toList =
        '@' :: (numbered (parameterStem casing q) j).toList)
      (hplain : (numbered (parameterStem casing q) j).toList.head? ≠ some '@') :
      plainName p = plainName q := by
    obtain ⟨hp, hpmark⟩ :=
      parameterStem_of_mark (fun name => (hcasing name).1) (by rw [hmark]; rfl)
    obtain ⟨p', hp'⟩ := List.head?_eq_some_iff.mp hpmark
    have hnames : (numbered (parameterStem casing q) j).toList =
        p' ++ "_value".toList ++ numberDigits i := by
      rw [toList_numbered, hp, String.toList_append, hp'] at hmark
      simpa using hmark.symm
    have hunderscore : '_' ∈ (parameterStem casing q).toList := by
      have hmem : '_' ∈ (numbered (parameterStem casing q) j).toList := by simp [hnames]
      rw [toList_numbered] at hmem
      rcases List.mem_append.mp hmem with hmem | hmem
      · exact hmem
      · exact absurd (isDigit_of_mem_numberDigits hmem) (by decide)
    have hq := parameterStem_of_underscore (fun name => (hcasing name).2) hunderscore
    have hqlist : q.toList = p' := by
      rw [toList_numbered, hq, String.toList_append] at hnames
      have hvalue : "_value".toList = "_valu".toList ++ ['e'] := by decide
      rw [hvalue, ← List.append_assoc, ← List.append_assoc] at hnames
      exact List.append_cancel_right (append_numberDigits_inj (by decide) hnames)
    have hqplain : q.toList.head? ≠ some '@' := by
      intro hhead
      apply hplain
      rw [toList_numbered, hq, String.toList_append]
      simp [hhead]
    rw [plainName_of_mark hp', plainName_of_head? hqplain, ← hqlist, String.ofList_toList]
  rcases plainName_inj h with heq | ⟨hmark, hplain⟩ | ⟨hmark, hplain⟩
  · exact .inl heq
  · exact .inr (hmarked hmark hplain)
  · exact .inr (hmarked hmark hplain).symm

theorem exists_of_mem_parameterNamesFrom {used properties : List String} {parameter : String}
    (h : parameter ∈ parameterNamesFrom casing used properties) :
    ∃ property ∈ properties, ∃ k, numbered (parameterStem casing property) k ∉ used ∧
      parameter = escapeKeyword (numbered (parameterStem casing property) k) := by
  induction properties generalizing used with
  | nil => cases h
  | cons first properties ih =>
    obtain ⟨hfree, k, hk⟩ := fresh_spec used (parameterStem casing first)
    rcases List.mem_cons.mp h with rfl | h
    · exact ⟨first, List.mem_cons_self, k, hk ▸ hfree, hk ▸ rfl⟩
    · obtain ⟨property, hproperty, k, hunused, rfl⟩ := ih h
      exact ⟨property, List.mem_cons_of_mem _ hproperty, k,
        fun hmem => hunused (List.mem_cons_of_mem _ hmem), rfl⟩

theorem length_parameterNamesFrom (casing : List Char → List Char)
    (used properties : List String) :
    (parameterNamesFrom casing used properties).length = properties.length := by
  induction properties generalizing used with
  | nil => rfl
  | cons property properties ih => simp [parameterNamesFrom, ih]

/-- If no mark is left in a name, then different properties have different parameters. -/
theorem nodup_plainName_parameterNamesFrom
    (hcasing : ∀ name, '@' ∉ casing name ∧ '_' ∉ casing name) {used properties : List String}
    (h : (properties.map plainName).Nodup) :
    ((parameterNamesFrom casing used properties).map plainName).Nodup := by
  induction properties generalizing used with
  | nil => exact List.nodup_nil
  | cons first properties ih =>
    rw [List.map_cons, List.nodup_cons] at h
    rw [parameterNamesFrom, List.map_cons, List.nodup_cons]
    refine ⟨?_, ih h.2⟩
    intro hmem
    obtain ⟨parameter, hparameter, hplain⟩ := List.mem_map.mp hmem
    obtain ⟨property, hproperty, k, hunused, rfl⟩ := exists_of_mem_parameterNamesFrom hparameter
    obtain ⟨-, i, hi⟩ := fresh_spec used (parameterStem casing first)
    rw [plainName_escapeKeyword, plainName_escapeKeyword, hi] at hplain
    rcases plainName_numbered_inj hcasing hplain with hsame | hsame
    · exact hunused (by rw [hsame, hi]; exact List.mem_cons_self)
    · exact h.1 (hsame ▸ List.mem_map_of_mem hproperty)

/-- The first character is a capital of the basic alphabet. -/
def startsWithCapital (property : String) : Bool := property.toList.head?.any Char.isUpper

/-- The parameter of a property with a capital in front has a small letter there. -/
theorem exists_isLower_of_mem_parameterNamesFrom {used properties : List String}
    (hcapital : ∀ property ∈ properties, startsWithCapital property = true) {parameter : String}
    (h : parameter ∈ parameterNamesFrom Text.lowerCamel used properties) :
    ∃ d, (plainName parameter).toList.head? = some d ∧ d.isLower = true := by
  obtain ⟨property, hproperty, k, -, rfl⟩ := exists_of_mem_parameterNamesFrom h
  obtain ⟨c, hc, hupper⟩ := (Option.any_eq_true _ _).mp (hcapital property hproperty)
  obtain ⟨rest, hname⟩ := List.head?_eq_some_iff.mp hc
  obtain ⟨d, tail, hcased, hlower⟩ := Text.exists_lowerCamel_of_isUpper hupper rest
  have hsmall := Text.char_isLower_iff.mp hlower
  have hdigit : d.isDigit = false := by
    rw [← Bool.not_eq_true, Char.isDigit_iff_toNat]
    exact fun hdigit => absurd (Nat.le_trans hsmall.1 hdigit.2) (by decide)
  have hsame : String.ofList (d :: tail) ≠ property := by
    intro heq
    rw [← heq, String.toList_ofList, List.cons_eq_cons] at hname
    rw [← hname.1, Text.char_isUpper_iff] at hupper
    omega
  have hstem : parameterStem Text.lowerCamel property = String.ofList (d :: tail) := by
    rw [parameterStem_of_cons (hname ▸ hcased) hdigit, if_neg hsame]
  have hhead : (numbered (parameterStem Text.lowerCamel property) k).toList.head? = some d := by
    simp [toList_numbered, hstem]
  rw [plainName_escapeKeyword, plainName_of_head?]
  · exact ⟨d, hhead, hlower⟩
  · rw [hhead]
    rintro ⟨⟩
    exact absurd hlower (by decide)

end Companion.Naming
