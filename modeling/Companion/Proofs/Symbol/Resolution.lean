import Mathlib.Data.List.TakeWhile
import Companion.Proofs.Symbol.Model
import Companion.Proofs.Text.Search
import Companion.TypeRef.Namespaces

/-!
# What names mean

The candidates of a name come from the namespaces around it, from the inside out, and from the
imported ones. A name means the first type among them, so it means a given type exactly if that is a
candidate and no other type is tried before it (`Model.resolve?_eq_some_iff`). A simple name can be
taken to another place if the namespaces that it needs are imported there: it means something there
then, and it means the same unless it is captured (`Model.resolve?_iff_of_imports`).
-/

namespace Companion

/-! ## Candidates -/

namespace Scope

variable {scope wider : Scope} {name ns full : String}

/-- The types of a namespace are visible under their simple names. -/
def Imports (scope : Scope) (ns : String) : Prop :=
  scope.namespaceName = some ns ∨ ns ∈ scope.usings

/-- The segments of a namespace. -/
def segments (ns : String) : List String := (Text.splitBy (· = '.') ns.toList).map String.ofList

theorem intercalate_segments (ns : String) : ".".intercalate (segments ns) = ns := by
  rw [segments, ← String.toList_inj, String.toList_intercalate, List.map_map]
  simpa [Function.comp_def] using Text.intercalate_splitBy '.' ns.toList

theorem segments_of_isSimpleName (h : IsSimpleName ns) : segments ns = [ns] := by
  have hns : ∀ c ∈ ns.toList, decide (c = '.') = false := by
    intro c hc
    exact decide_eq_false (ne_of_mem_of_not_mem hc h)
  rw [segments, Text.splitBy_of_none hns, List.map_singleton, String.ofList_toList]

theorem segments_append (ns name : String) :
    segments (ns ++ "." ++ name) = segments ns ++ segments name := by
  rw [segments, toList_append_dot, Text.splitBy_append_cons (by decide), List.map_append, segments,
    segments]

theorem enclosing_eq (ns : String) : enclosing ns =
    (List.range (segments ns).length).map fun k =>
      ".".intercalate ((segments ns).take ((segments ns).length - k)) := rfl

/-- Around a namespace of one segment there is no other. -/
theorem enclosing_of_isSimpleName (h : IsSimpleName ns) : enclosing ns = [ns] := by
  rw [enclosing_eq, segments_of_isSimpleName h]
  simp

/-- What is around a nested namespace is itself, and then what is around the outer one. -/
theorem enclosing_append {segment : String} (h : IsSimpleName segment) (ns : String) :
    enclosing (ns ++ "." ++ segment) = (ns ++ "." ++ segment) :: enclosing ns := by
  have hsegments : segments (ns ++ "." ++ segment) = segments ns ++ [segment] := by
    rw [segments_append, segments_of_isSimpleName h]
  have hwhole := intercalate_segments (ns ++ "." ++ segment)
  rw [enclosing_eq, enclosing_eq, hsegments, List.length_append, List.length_singleton,
    List.range_succ_eq_map, List.map_cons, List.map_map]
  congr 1
  · rwa [Nat.sub_zero, List.take_of_length_le (by simp), ← hsegments]
  · refine List.map_congr_left fun k _ => ?_
    -- the outer namespaces do not reach the new segment
    rw [Function.comp_apply, Nat.succ_eq_add_one, Nat.add_sub_add_right,
      List.take_append_of_le_length (Nat.sub_le _ _)]

/-- The namespaces around a namespace are those that it goes on from, and itself. -/
theorem mem_enclosing_iff {outer : String} :
    outer ∈ enclosing ns ↔ outer = ns ∨ ∃ rest, ns = outer ++ "." ++ rest := by
  induction ns using namespace_induction with
  | segment ns hns =>
    rw [enclosing_of_isSimpleName hns, List.mem_singleton]
    refine ⟨.inl, ?_⟩
    rintro (h | ⟨rest, rfl⟩)
    · exact h
    · exact absurd hns (not_isSimpleName_append_dot outer rest)
  | nested ns segment hsegment ih =>
    rw [enclosing_append hsegment, List.mem_cons, ih]
    refine or_congr_right ⟨?_, ?_⟩
    · rintro (rfl | ⟨rest, rfl⟩)
      · exact ⟨segment, rfl⟩
      · exact ⟨rest ++ "." ++ segment, by simp [String.append_assoc]⟩
    · rintro ⟨rest, hrest⟩
      by_cases hsimple : IsSimpleName rest
      · exact .inl (append_dot_inj hsegment hsimple hrest).1.symm
      · obtain ⟨more, last, hlast, rfl⟩ := exists_eq_append_dot hsimple
        have hsplit : ns ++ "." ++ segment = outer ++ "." ++ more ++ "." ++ last := by
          simpa [String.append_assoc] using hrest
        exact .inr ⟨more, (append_dot_inj hsegment hlast hsplit).1⟩

/-- A namespace encloses itself. -/
theorem mem_enclosing_self (ns : String) : ns ∈ enclosing ns := mem_enclosing_iff.mpr (.inl rfl)

/-- The namespaces around a namespace come from the inside out. -/
theorem pairwise_enclosing (ns : String) :
    (enclosing ns).Pairwise fun inner outer => ∃ rest, inner = outer ++ "." ++ rest := by
  induction ns using namespace_induction with
  | segment ns hns =>
    rw [enclosing_of_isSimpleName hns]
    exact List.pairwise_singleton _ _
  | nested ns segment hsegment ih =>
    rw [enclosing_append hsegment, List.pairwise_cons]
    refine ⟨fun outer houter => ?_, ih⟩
    rcases mem_enclosing_iff.mp houter with rfl | ⟨rest, rfl⟩
    · exact ⟨segment, rfl⟩
    · exact ⟨rest ++ "." ++ segment, by simp [String.append_assoc]⟩

/-- A simple name is looked for in the namespaces around the place, then in the imported ones, and
then in the global one. -/
theorem candidates_of_isSimpleName (scope : Scope) (h : IsSimpleName name) :
    scope.candidates name =
      ((scope.namespaceName.map enclosing).getD []).map (· ++ "." ++ name) ++
        scope.usings.map (· ++ "." ++ name) ++ [name] := by
  have hdot : '.' ∉ name.toList := h
  simp [candidates, hdot]

/-- A name with a dot is tried as a full name first, and then like a simple one. -/
theorem candidates_of_not_isSimpleName (scope : Scope) (h : ¬IsSimpleName name) :
    scope.candidates name = name :: (((scope.namespaceName.map enclosing).getD []).map
      (· ++ "." ++ name) ++ scope.usings.map (· ++ "." ++ name)) := by
  have hdot : '.' ∈ name.toList := not_not.mp h
  simp [candidates, hdot]

theorem mem_candidates_iff : full ∈ scope.candidates name ↔ full = name ∨
    (∃ ns ∈ (scope.namespaceName.map enclosing).getD [], full = ns ++ "." ++ name) ∨
    ∃ ns ∈ scope.usings, full = ns ++ "." ++ name := by
  simp only [candidates, List.mem_append, List.mem_map, @eq_comm _ full]
  cases name.toList.contains '.' <;> simp [or_comm, or_left_comm, eq_comm]

/-- Whatever a name may stand for, it is the simple name of it. -/
theorem exists_fullNameIn (h : full ∈ scope.candidates name) : ∃ ns, full = fullNameIn ns name := by
  rcases mem_candidates_iff.mp h with rfl | ⟨ns, -, rfl⟩ | ⟨ns, -, rfl⟩
  · exact ⟨none, rfl⟩
  · exact ⟨some ns, rfl⟩
  · exact ⟨some ns, rfl⟩

theorem Imports.mem_candidates (h : scope.Imports ns) (name : String) :
    fullNameIn (some ns) name ∈ scope.candidates name := by
  rw [mem_candidates_iff]
  rcases h with hns | hns
  · exact .inr (.inl ⟨ns, by simp [hns, mem_enclosing_self], rfl⟩)
  · exact .inr (.inr ⟨ns, hns, rfl⟩)

theorem candidates_subset (hns : scope.namespaceName = wider.namespaceName)
    (husings : scope.usings ⊆ wider.usings) (name : String) :
    scope.candidates name ⊆ wider.candidates name := by
  intro full h
  rw [mem_candidates_iff] at h ⊢
  rw [← hns]
  exact h.imp_right (.imp_right fun ⟨ns, hmem, hfull⟩ => ⟨ns, husings hmem, hfull⟩)

end Scope

/-! ## First matches -/

namespace Model

variable {model : Model} {scope wider target : Scope} {name : String} {arity : Nat} {r s : Symbol}

/-- A type other than `s` is tried before it. -/
def Captures (model : Model) (scope : Scope) (name : String) (s : Symbol) : Prop :=
  ∃ r ∈ model.symbols, r.arity = s.arity ∧
    r.fullName ∈ (scope.candidates name).takeWhile (· ≠ s.fullName)

instance (model : Model) (scope : Scope) (name : String) (s : Symbol) :
    Decidable (model.Captures scope name s) :=
  inferInstanceAs (Decidable (∃ r ∈ model.symbols, _))

theorem lookup?_key_of_resolve? (h : model.resolve? scope name arity = some s) :
    model.lookup? s.key = some s := by
  obtain ⟨full, -, hlookup⟩ := List.exists_of_findSome?_eq_some h
  exact lookup?_key_of_lookup? hlookup

theorem arity_of_resolve? (h : model.resolve? scope name arity = some s) : s.arity = arity := by
  obtain ⟨full, -, hlookup⟩ := List.exists_of_findSome?_eq_some h
  exact congrArg Prod.snd (key_of_lookup? hlookup)

theorem fullName_mem_candidates (h : model.resolve? scope name arity = some s) :
    s.fullName ∈ scope.candidates name := by
  obtain ⟨full, hfull, hlookup⟩ := List.exists_of_findSome?_eq_some h
  rwa [show s.fullName = full from congrArg Prod.fst (key_of_lookup? hlookup)]

theorem resolve?_isSome_of_mem (h : model.lookup? s.key = some s)
    (hfull : s.fullName ∈ scope.candidates name) : (model.resolve? scope name s.arity).isSome := by
  have hlookup : model.lookup? (s.fullName, s.arity) = some s := h
  rw [resolve?, List.findSome?_isSome_iff]
  exact ⟨s.fullName, hfull, Option.isSome_of_eq_some hlookup⟩

theorem resolve?_eq_some_iff (hs : model.lookup? s.key = some s) :
    model.resolve? scope name s.arity = some s ↔
      s.fullName ∈ scope.candidates name ∧ ¬model.Captures scope name s := by
  constructor
  · intro h
    refine ⟨fullName_mem_candidates h, ?_⟩
    rintro ⟨r, hr, harity, htried⟩
    obtain ⟨before, full, after, hcandidates, hlookup, hbefore⟩ :=
      List.findSome?_eq_some_iff.mp h
    obtain rfl : s.fullName = full := congrArg Prod.fst (key_of_lookup? hlookup)
    have hr' : r.fullName ∈ before := by
      rw [hcandidates, List.takeWhile_append] at htried
      split at htried
      · simpa using htried
      · exact (List.takeWhile_prefix _).subset htried
    have hsome := lookup?_isSome_of_mem hr
    rw [Symbol.key, harity, hbefore r.fullName hr'] at hsome
    cases hsome
  · rintro ⟨hfull, hfree⟩
    obtain ⟨before, after, hcandidates, hfirst⟩ := List.eq_append_cons_of_mem hfull
    rw [resolve?, List.findSome?_eq_some_iff]
    refine ⟨before, s.fullName, after, hcandidates, hs, ?_⟩
    intro full hbefore
    rw [Option.eq_none_iff_forall_ne_some]
    intro r hlookup
    have hkey := key_of_lookup? hlookup
    refine hfree ⟨r, mem_of_lookup? hlookup, congrArg Prod.snd hkey, ?_⟩
    have hbefore' : ∀ full ∈ before, decide (full ≠ s.fullName) = true := by
      intro full hmem
      rw [decide_eq_true_iff]
      rintro rfl
      exact hfirst hmem
    rw [hcandidates, List.takeWhile_append_of_pos hbefore',
      show r.fullName = full from congrArg Prod.fst hkey]
    exact List.mem_append_left _ hbefore

/-- A name that means something means `s` unless another type is tried before. -/
theorem resolve?_eq_some_iff_of_isSome (hs : model.lookup? s.key = some s)
    (h : (model.resolve? scope name s.arity).isSome) :
    model.resolve? scope name s.arity = some s ↔ ¬model.Captures scope name s := by
  rw [resolve?_eq_some_iff hs, and_iff_right_iff_imp]
  intro hfree
  obtain ⟨r, hr⟩ := Option.isSome_iff_exists.mp h
  by_contra hfull
  -- all candidates are tried before one that is not among them
  have hall : (scope.candidates name).takeWhile (· ≠ s.fullName) = scope.candidates name := by
    rw [List.takeWhile_eq_self_iff]
    intro full hmem
    rw [decide_eq_true_iff]
    rintro rfl
    exact hfull hmem
  refine hfree ⟨r, mem_of_lookup? (lookup?_key_of_resolve? hr), arity_of_resolve? hr, ?_⟩
  rw [hall]
  exact fullName_mem_candidates hr

/-- In a nested namespace, a simple name means the type of that name there, or else what it means in
the outer namespace. -/
theorem resolve?_nested {segment : String} (hsegment : IsSimpleName segment)
    (hname : IsSimpleName name) (ns : String) (usings : List String) (arity : Nat) :
    model.resolve? ⟨some (ns ++ "." ++ segment), usings⟩ name arity =
      (model.lookup? (ns ++ "." ++ segment ++ "." ++ name, arity)).or
        (model.resolve? ⟨some ns, usings⟩ name arity) := by
  unfold resolve?
  rw [Scope.candidates_of_isSimpleName _ hname, Scope.candidates_of_isSimpleName _ hname,
    Option.map_some, Option.map_some, Option.getD_some, Option.getD_some,
    Scope.enclosing_append hsegment, List.map_cons, List.cons_append, List.cons_append,
    List.findSome?_cons]
  cases model.lookup? (ns ++ "." ++ segment ++ "." ++ name, arity) <;> rfl

/-- A name that is written in full means the same everywhere. -/
theorem resolve?_fullName (hs : model.lookup? s.key = some s) (hname : ¬IsSimpleName s.fullName) :
    model.resolve? scope s.fullName s.arity = some s := by
  rw [resolve?_eq_some_iff hs]
  refine ⟨Scope.mem_candidates_iff.mpr (.inl rfl), ?_⟩
  rintro ⟨r, -, -, htried⟩
  simp [Scope.candidates_of_not_isSimpleName scope hname] at htried

/-! ## The same name at another place -/

theorem resolve?_isSome_of_subset (hns : scope.namespaceName = wider.namespaceName)
    (husings : scope.usings ⊆ wider.usings) (h : model.resolve? scope name arity = some s) :
    (model.resolve? wider name arity).isSome := by
  obtain rfl := arity_of_resolve? h
  exact resolve?_isSome_of_mem (lookup?_key_of_resolve? h)
    (Scope.candidates_subset hns husings name (fullName_mem_candidates h))

/-- A simple name means something where the namespace of what it means is imported. -/
theorem resolve?_isSome_of_imports (hmodel : model.IsPlain) (hname : IsSimpleName name)
    (h : (model.resolve? scope name arity).isSome)
    (himports : ∀ ns ∈ model.namespaceOf? scope (name, arity), target.Imports ns) :
    (model.resolve? target name arity).isSome := by
  obtain ⟨r, hr⟩ := Option.isSome_iff_exists.mp h
  obtain rfl := arity_of_resolve? hr
  have hlookup := lookup?_key_of_resolve? hr
  -- `r` is in the namespace with which it was tried, as no simple name has a dot
  obtain ⟨ns, hfull⟩ := Scope.exists_fullNameIn (fullName_mem_candidates hr)
  obtain ⟨hns, -⟩ := (hmodel r (mem_of_lookup? hlookup)).eq_of_fullName hname hfull
  apply resolve?_isSome_of_mem hlookup
  rw [hfull]
  cases ns with
  | none => exact Scope.mem_candidates_iff.mpr (.inl rfl)
  | some ns =>
    have hneeded : model.namespaceOf? scope (name, r.arity) = some ns := by
      rw [namespaceOf?, hr]
      exact hns
    exact (himports ns hneeded).mem_candidates name

/-- A simple name that is resolved with more imports than it has, and whose namespace then is
imported at another place, means the same there unless it is captured. -/
theorem resolve?_iff_of_imports (hmodel : model.IsPlain) (hname : IsSimpleName name)
    (hns : scope.namespaceName = wider.namespaceName) (husings : scope.usings ⊆ wider.usings)
    (himports : ∀ ns ∈ model.namespaceOf? wider (name, arity), target.Imports ns)
    (h : model.resolve? scope name arity = some s) :
    model.resolve? target name arity = some s ↔ ¬model.Captures target name s := by
  have hwider := resolve?_isSome_of_subset hns husings h
  have htarget := resolve?_isSome_of_imports hmodel hname hwider himports
  obtain rfl := arity_of_resolve? h
  exact resolve?_eq_some_iff_of_isSome (lookup?_key_of_resolve? h) htarget

/-- Only a type with the same simple name can capture one. -/
theorem Captures.exists_name_eq (hmodel : model.IsPlain) (hname : IsSimpleName name)
    (h : model.Captures scope name s) :
    ∃ r ∈ model.symbols, r.name = name ∧ r.arity = s.arity ∧ r.fullName ≠ s.fullName := by
  obtain ⟨r, hr, harity, htried⟩ := h
  obtain ⟨ns, hfull⟩ := Scope.exists_fullNameIn ((List.takeWhile_prefix _).subset htried)
  refine ⟨r, hr, ((hmodel r hr).eq_of_fullName hname hfull).2, harity, ?_⟩
  simpa using List.mem_takeWhile_imp htried

end Model

/-! ## Namespaces that types need -/

/-- A file need not import its own namespace: what is in it is visible anyway. -/
theorem Scope.imports_of_mem {set : NamespaceSet} {ns : String} (h : ns ∈ set.items)
    (own : Option String) :
    (Scope.of own (match own with
      | some name => (set.remove name).items
      | none => set.items)).Imports ns := by
  cases own with
  | none => exact .inr h
  | some own =>
    by_cases heq : ns = own
    · have hne : ns ≠ "" := ne_of_mem_of_not_mem h set.proper
      exact .inl (by rw [Scope.of, properNamespace_of_ne (by simpa [← heq] using hne), heq])
    · exact .inr (NamespaceSet.mem_remove.mpr ⟨h, heq⟩)

theorem Model.mem_requiredNamespaces {model : Model} {scope : Scope} {t : TypeRef} {ns : String}
    {name : TypeKey} (hname : name ∈ t.names) (h : model.namespaceOf? scope name = some ns)
    (hne : ns ≠ "") : ns ∈ (model.requiredNamespaces scope t).items :=
  NamespaceSet.mem_insertAll.mpr (.inr ⟨List.mem_filterMap.mpr ⟨name, hname, h⟩, hne⟩)

end Companion
