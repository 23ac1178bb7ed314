import Companion.Proofs.Naming.Parameters

/-!
# How parameters are chosen

Each parameter is the first choice for its property that no parameter before it is. The search
compares names while reserved words are not escaped yet, so this takes that escaping does not bring
two choices together: only a name with an addition can have a mark of its own, and such a name has
an underscore and therefore is not a reserved word behind its mark. Unlike
`nodup_plainName_parameterNamesFrom` this is about names as they are written, about all lists of
properties, and about every way of writing names that leaves no `@` in them
(`nodup_parameterNamesFrom`). Lower camel case is one (`parameterNames_firstFree`).
-/

namespace Companion.Naming

variable {casing : List Char → List Char} {used properties : List String} {property p q : String}
  {i j k : Nat}

/-! ## Escaping -/

/-- A choice with a mark of its own is not what a reserved word is escaped to. -/
theorem escapeKeyword_ne_of_mark (hcasing : ∀ name, '@' ∉ casing name)
    (hmark : (numbered (parameterStem casing p) i).toList =
      '@' :: (numbered (parameterStem casing q) j).toList) :
    escapeKeyword (numbered (parameterStem casing p) i) ≠
      escapeKeyword (numbered (parameterStem casing q) j) := by
  obtain ⟨hstem, -⟩ := parameterStem_of_mark hcasing (by rw [hmark]; rfl)
  have hunderscore : '_' ∈ (numbered (parameterStem casing p) i).toList := by
    simp [toList_numbered, hstem]
  have hbehind : '_' ∈ (numbered (parameterStem casing q) j).toList := by
    simpa [hmark] using hunderscore
  rw [escapeKeyword_of_mem hunderscore (by decide), escapeKeyword_of_mem hbehind (by decide)]
  intro heq
  have hlength := congrArg List.length hmark
  simp [heq] at hlength

theorem escapeKeyword_numbered_inj (hcasing : ∀ name, '@' ∉ casing name)
    (h : escapeKeyword (numbered (parameterStem casing p) i) =
      escapeKeyword (numbered (parameterStem casing q) j)) :
    numbered (parameterStem casing p) i = numbered (parameterStem casing q) j := by
  have hplain := congrArg Code.plainName h
  rw [plainName_escapeKeyword, plainName_escapeKeyword] at hplain
  rcases plainName_inj hplain with heq | ⟨hmark, -⟩ | ⟨hmark, -⟩
  · exact heq
  · exact absurd h (escapeKeyword_ne_of_mark hcasing hmark)
  · exact absurd h.symm (escapeKeyword_ne_of_mark hcasing hmark)

/-! ## Choices -/

/-- The choices for the parameter of a property, as they are written. -/
def parameterChoice (casing : List Char → List Char) (property : String) (k : Nat) : String :=
  escapeKeyword (numbered (parameterStem casing property) k)

/-- The names of the parameters while they are compared with each other. -/
def unescapedFrom (casing : List Char → List Char) (used : List String) :
    List String → List String
  | [] => []
  | property :: properties =>
    let name := fresh used (parameterStem casing property)
    name :: unescapedFrom casing (name :: used) properties

theorem parameterNamesFrom_eq (casing : List Char → List Char) (used properties : List String) :
    parameterNamesFrom casing used properties =
      (unescapedFrom casing used properties).map escapeKeyword := by
  induction properties generalizing used with
  | nil => rfl
  | cons property properties ih => simp [parameterNamesFrom, unescapedFrom, ih]

theorem exists_numbered_of_mem_unescapedFrom {name : String}
    (h : name ∈ unescapedFrom casing used properties) :
    ∃ p k, name = numbered (parameterStem casing p) k := by
  induction properties generalizing used with
  | nil => cases h
  | cons property properties ih =>
    rcases List.mem_cons.mp h with rfl | h
    · obtain ⟨-, k, hk⟩ := fresh_spec used (parameterStem casing property)
      exact ⟨property, k, hk⟩
    · exact ih h

/-- Each name is the first that neither was in use at the beginning nor has been chosen since. -/
theorem exists_isFirstFree_unescapedFrom (casing : List Char → List Char) (used : List String)
    (h : properties[i]? = some property) :
    ∃ k ≤ used.length + i,
      IsFirstFree (numbered (parameterStem casing property))
        (((unescapedFrom casing used properties).take i).reverse ++ used) k ∧
      (unescapedFrom casing used properties)[i]? =
        some (numbered (parameterStem casing property) k) := by
  induction properties generalizing used i with
  | nil => cases h
  | cons first properties ih =>
    cases i with
    | zero =>
      cases h
      obtain ⟨k, hk, hfirst⟩ :=
        exists_isFirstFree (numbered_injective (parameterStem casing property)) used
      exact ⟨k, hk, hfirst, congrArg some (fresh_eq hfirst hk)⟩
    | succ i =>
      obtain ⟨k, hk, hfirst, hname⟩ := ih (fresh used (parameterStem casing first) :: used) h
      rw [List.length_cons] at hk
      refine ⟨k, by omega, ?_, hname⟩
      simpa [unescapedFrom] using hfirst

/-- The same for names as they are written. -/
theorem exists_isFirstFree_parameterNamesFrom (hcasing : ∀ name, '@' ∉ casing name)
    (h : properties[i]? = some property) :
    ∃ k ≤ i, IsFirstFree (parameterChoice casing property)
        ((parameterNamesFrom casing [] properties).take i) k ∧
      (parameterNamesFrom casing [] properties)[i]? =
        some (parameterChoice casing property k) := by
  obtain ⟨k, hk, hfirst, hname⟩ := exists_isFirstFree_unescapedFrom casing [] h
  rw [List.append_nil] at hfirst
  refine ⟨k, by simpa using hk, ⟨?_, ?_⟩, ?_⟩
  · rw [parameterNamesFrom_eq, ← List.map_take]
    intro hmem
    obtain ⟨name, hname, heq⟩ := List.mem_map.mp hmem
    obtain ⟨q, j, rfl⟩ := exists_numbered_of_mem_unescapedFrom (List.mem_of_mem_take hname)
    rw [escapeKeyword_numbered_inj hcasing heq] at hname
    exact hfirst.free (List.mem_reverse.mpr hname)
  · intro j hj
    rw [parameterNamesFrom_eq, ← List.map_take]
    exact List.mem_map_of_mem (List.mem_reverse.mp (hfirst.passed j hj))
  · rw [parameterNamesFrom_eq, List.getElem?_map, hname]
    rfl

/-- However names are written, if no mark is left in them then all parameters are different. -/
theorem nodup_parameterNamesFrom (hcasing : ∀ name, '@' ∉ casing name)
    (properties : List String) : (parameterNamesFrom casing [] properties).Nodup := by
  rw [List.nodup_iff_getElem?_ne_getElem?]
  intro i j hij hj heq
  rw [length_parameterNamesFrom] at hj
  obtain ⟨k, -, hfirst, hname⟩ :=
    exists_isFirstFree_parameterNamesFrom hcasing (List.getElem?_eq_getElem hj)
  apply hfirst.free
  rw [hname] at heq
  refine List.mem_of_getElem? (i := i) ?_
  rw [List.getElem?_take_of_lt hij, heq]

theorem not_mem_lowerCamel_at (name : List Char) : '@' ∉ Text.lowerCamel name :=
  (not_mem_lowerCamel_stem name).1

/-- Every search for a parameter's name ends, after no more rounds than there are parameters before
it. There is a parameter for each property, and as they are written they are different. -/
theorem parameterNames_firstFree (properties : List String) :
    (∀ i property, properties[i]? = some property →
      ∃ k ≤ i, IsFirstFree (parameterChoice Text.lowerCamel property)
          ((parameterNames properties).take i) k ∧
        (parameterNames properties)[i]? = some (parameterChoice Text.lowerCamel property k)) ∧
    (parameterNames properties).length = properties.length ∧ (parameterNames properties).Nodup :=
  ⟨fun _ _ h => exists_isFirstFree_parameterNamesFrom not_mem_lowerCamel_at h,
    length_parameterNamesFrom Text.lowerCamel [] properties,
    nodup_parameterNamesFrom not_mem_lowerCamel_at properties⟩

/-- Three properties have a reserved word as their stem, and one is spelled as a choice for it. -/
theorem parameterNames_firstFree_class :
    let properties := ["Class", "@class", "class1", "Class"]
    parameterNames properties = ["@class", "class1", "class1_value", "class2"] ∧
      ∃ k ≤ 3, IsFirstFree (parameterChoice Text.lowerCamel "Class")
          ["@class", "class1", "class1_value"] k ∧
        parameterChoice Text.lowerCamel "Class" k = "class2" := by
  intro properties
  have hnames : parameterNames properties = ["@class", "class1", "class1_value", "class2"] := by
    decide +kernel
  obtain ⟨k, hk, hfirst, hname⟩ := (parameterNames_firstFree properties).1 3 "Class" rfl
  rw [hnames] at hfirst hname
  exact ⟨hnames, k, hk, hfirst, (Option.some.inj hname).symm⟩

end Companion.Naming
