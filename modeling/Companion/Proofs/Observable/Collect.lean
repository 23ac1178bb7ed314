import Companion.Observable.Collect
import Companion.Proofs.Symbol.Model

/-!
# What is collected

A declaration changes one entry of the registry, and only if it has decorated fields. So every
entry belongs to a declared type, and a decorated field is found in the entry of its type, together
with the imports around it. Modifiers come last, and from all declarations with the name of the
entry (`exists_of_get?_collect`).
-/

namespace Companion

theorem addMissing_of_subset {texts more : List String} (h : more ⊆ texts) :
    addMissing texts more = texts := by
  induction more with
  | nil => rfl
  | cons first more ih =>
    rw [List.cons_subset] at h
    have hstep : addMissing texts (first :: more) =
      addMissing (if texts.contains first then texts else texts ++ [first]) more := rfl
    rw [hstep, if_pos (by simpa using h.1), ih h.2]

theorem addMissing_addMissing (texts more : List String) :
    addMissing (addMissing texts more) more = addMissing texts more :=
  addMissing_of_subset fun _ htext => mem_addMissing.mpr (.inr htext)

/-- A property marker is told by its name, and must have arguments. -/
theorem Marker.bind_property?_ofAttribute? (a : Attribute) :
    (ofAttribute? a).bind property? =
      if MarkerKind.ofName? a.name = some .makeProperty then PropertyArguments.parse? a.arguments
      else none := by
  unfold ofAttribute?
  cases MarkerKind.ofName? a.name with
  | none => rfl
  | some kind =>
    cases kind with
    | makeProperty => cases PropertyArguments.parse? a.arguments <;> rfl
    | makeConcrete => cases ConcreteArguments.parse? a.arguments <;> rfl

namespace ObservableType

/-- The entry is that of the declared type. -/
structure IsOf (t : ObservableType) (decl : TypeDecl) : Prop where
  namespaceName : t.namespaceName = properNamespace decl.namespaceName
  name : t.name = decl.name
  typeParameters : t.typeParameters = decl.typeParameters

theorem IsOf.key_eq {t : ObservableType} {decl : TypeDecl} (h : t.IsOf decl) :
    t.key = decl.key := by
  rw [key, fullName, h.namespaceName, h.name, h.typeParameters]
  rfl

theorem IsOf.qualifiedName_eq {t : ObservableType} {decl : TypeDecl} (h : t.IsOf decl) :
    t.qualifiedName = decl.qualifiedName := by
  rw [qualifiedName, h.namespaceName, h.name, qualifiedNameIn_properNamespace]
  rfl

/-- The entry with the decorated fields of another part. -/
def absorb (t : ObservableType) (usings : List String) (fields : List DecoratedField) :
    ObservableType :=
  { t with usings := addMissing t.usings usings, fields := t.fields ++ fields }

theorem absorb_absorb (t : ObservableType) (usings : List String)
    (fields fields' : List DecoratedField) :
    (t.absorb usings fields).absorb usings fields' = t.absorb usings (fields ++ fields') := by
  simp [absorb, addMissing_addMissing]

/-! ## One declaration -/

theorem get?_foldl_upsert (registry : Registry String ObservableType) (name key : String)
    (fresh : ObservableType) (usings : List String) (fields : List DecoratedField) :
    (fields.foldl
        (fun registry field =>
          registry.upsert name fresh fun t => (t.addUsings usings).addField field)
        registry).get? key =
      if key = name ∧ fields ≠ [] then
        some (((registry.get? name).getD fresh).absorb usings fields)
      else registry.get? key := by
  induction fields generalizing registry with
  | nil => simp
  | cons field fields ih =>
    have hone (t : ObservableType) :
      (t.addUsings usings).addField field = t.absorb usings [field] := rfl
    rw [List.foldl_cons, ih]
    by_cases hkey : key = name
    · by_cases hfields : fields = []
      · simp [hkey, hfields, Registry.get?_upsert, hone]
      · simp [hkey, hfields, Registry.get?_upsert, hone, absorb_absorb]
    · simp [hkey, Registry.get?_upsert]

theorem get?_collectDecl (registry : Registry String ObservableType) (usings : List String)
    (decl : TypeDecl) (key : String) :
    (collectDecl registry usings decl).get? key =
      if key = decl.qualifiedName ∧ decoratedFields decl ≠ [] then
        some (((registry.get? decl.qualifiedName).getD (ofDecl decl)).absorb usings
          (decoratedFields decl))
      else registry.get? key :=
  get?_foldl_upsert registry decl.qualifiedName key (ofDecl decl) usings (decoratedFields decl)

/-! ## All declarations -/

/-- Every entry is that of a declaration with its qualified name. -/
def AllDeclared (parts : List (List String × TypeDecl))
    (registry : Registry String ObservableType) : Prop :=
  ∀ key t, registry.get? key = some t →
    ∃ part ∈ parts, part.2.qualifiedName = key ∧ t.IsOf part.2

/-- The registry has a decorated field, with the imports around it. -/
def HasField (registry : Registry String ObservableType) (key : String) (usings : List String)
    (field : DecoratedField) : Prop :=
  ∃ t, registry.get? key = some t ∧ field ∈ t.fields ∧ usings ⊆ t.usings

variable {registry : Registry String ObservableType} {parts : List (List String × TypeDecl)}
  {part : List String × TypeDecl} {key : String} {usings : List String} {field : DecoratedField}

theorem AllDeclared.collectDecl (h : AllDeclared parts registry) (hpart : part ∈ parts) :
    AllDeclared parts (collectDecl registry part.1 part.2) := by
  intro key t ht
  rw [get?_collectDecl] at ht
  split at ht
  · next hkey =>
    cases ht
    obtain ⟨rfl, -⟩ := hkey
    cases hold : registry.get? part.2.qualifiedName with
    | none => exact ⟨part, hpart, rfl, rfl, rfl, rfl⟩
    | some old =>
      obtain ⟨first, hfirst, hname, hof⟩ := h _ old hold
      exact ⟨first, hfirst, hname, hof.namespaceName, hof.name, hof.typeParameters⟩
  · exact h key t ht

theorem AllDeclared.modify (h : AllDeclared parts registry) (name : String)
    (modifiers : List String) :
    AllDeclared parts (registry.modify name (·.addModifiers modifiers)) := by
  intro key t ht
  rw [Registry.get?_modify] at ht
  split at ht
  · obtain ⟨old, hold, rfl⟩ := Option.map_eq_some_iff.mp ht
    obtain ⟨part, hpart, hname, hof⟩ := h key old hold
    exact ⟨part, hpart, hname, hof.namespaceName, hof.name, hof.typeParameters⟩
  · exact h key t ht

theorem hasField_collectDecl_self (hfield : field ∈ decoratedFields part.2) :
    HasField (collectDecl registry part.1 part.2) part.2.qualifiedName part.1 field := by
  have hne : decoratedFields part.2 ≠ [] := List.ne_nil_of_mem hfield
  refine ⟨_, (get?_collectDecl ..).trans (if_pos ⟨rfl, hne⟩), ?_, ?_⟩
  · exact List.mem_append_right _ hfield
  · intro text htext
    exact mem_addMissing.mpr (.inr htext)

theorem HasField.collectDecl (h : HasField registry key usings field) (usings' : List String)
    (decl : TypeDecl) : HasField (collectDecl registry usings' decl) key usings field := by
  obtain ⟨t, ht, hfield, husings⟩ := h
  rw [HasField, get?_collectDecl]
  split
  · next hkey =>
    rw [← hkey.1, ht]
    refine ⟨_, rfl, List.mem_append_left _ hfield, ?_⟩
    intro text htext
    exact mem_addMissing.mpr (.inl (husings htext))
  · exact ⟨t, ht, hfield, husings⟩

theorem HasField.modify (h : HasField registry key usings field) (name : String)
    (modifiers : List String) :
    HasField (registry.modify name (·.addModifiers modifiers)) key usings field := by
  obtain ⟨t, ht, hfield, husings⟩ := h
  rw [HasField, Registry.get?_modify, ht]
  split
  · exact ⟨_, rfl, hfield, husings⟩
  · exact ⟨t, rfl, hfield, husings⟩

/-- An entry is made with the first of its fields. -/
theorem fields_ne_nil_of_get?_collect (units : List SourceUnit) :
    ∀ key t, (collect units).get? key = some t → t.fields ≠ [] := by
  refine List.foldlRecOn (motive := fun registry : Registry String ObservableType =>
    ∀ key t, registry.get? key = some t → t.fields ≠ []) _ _ ?_ ?_
  · refine List.foldlRecOn (motive := fun registry : Registry String ObservableType =>
      ∀ key t, registry.get? key = some t → t.fields ≠ []) _ _ (fun key t ht => by cases ht) ?_
    intro registry h part _ key t ht
    rw [get?_collectDecl] at ht
    split at ht
    · next hkey =>
      cases ht
      exact List.append_ne_nil_of_right_ne_nil _ hkey.2
    · exact h key t ht
  · intro registry h part _ key t ht
    rw [Registry.get?_modify] at ht
    split at ht
    · obtain ⟨old, hold, rfl⟩ := Option.map_eq_some_iff.mp ht
      exact h key old hold
    · exact h key t ht

/-- Fields are entered before any modifiers are. -/
theorem modifiers_of_get?_foldl_collectDecl (parts : List (List String × TypeDecl)) :
    ∀ key t,
      (parts.foldl (fun registry part => collectDecl registry part.1 part.2) {}).get? key = some t →
        t.modifiers = Modifiers.initial := by
  refine List.foldlRecOn (motive := fun registry : Registry String ObservableType =>
    ∀ key t, registry.get? key = some t → t.modifiers = Modifiers.initial) _ _
      (fun key t ht => by cases ht) ?_
  intro registry h part _ key t ht
  rw [get?_collectDecl] at ht
  split at ht
  · cases ht
    cases hold : registry.get? part.2.qualifiedName with
    | none => rfl
    | some old => exact h _ old hold
  · exact h key t ht

/-- An entry has the modifiers of all declarations with its name. -/
theorem exists_of_get?_collect {units : List SourceUnit} {name : String} {t : ObservableType}
    (h : (collect units).get? name = some t) :
    ∃ entered : ObservableType, entered.modifiers = Modifiers.initial ∧
      t = ((Model.declaredUnder units name).map (·.modifiers)).foldl addModifiers entered := by
  have hpasses := Registry.get?_foldl_modify (fun part => part.2.qualifiedName)
    (fun (t : ObservableType) part => t.addModifiers part.2.modifiers) (Model.declarations units)
    ((Model.declarations units).foldl
      (fun registry part => collectDecl registry part.1 part.2) {}) name
  obtain ⟨entered, hentered, rfl⟩ := Option.map_eq_some_iff.mp (hpasses.symm.trans h)
  refine ⟨entered, modifiers_of_get?_foldl_collectDecl _ _ _ hentered, ?_⟩
  rw [Model.declaredUnder, List.filter_map, List.map_map, List.foldl_map]
  rfl

theorem allDeclared_collect (units : List SourceUnit) :
    AllDeclared (Model.declarations units) (collect units) := by
  refine List.foldlRecOn (motive := AllDeclared (Model.declarations units)) _ _ ?_
    fun _ h part _ => h.modify part.2.qualifiedName part.2.modifiers
  refine List.foldlRecOn (motive := AllDeclared (Model.declarations units)) _ _ ?_
    fun _ h part hpart => h.collectDecl hpart
  intro key t ht
  cases ht

theorem hasField_collect {units : List SourceUnit} (hpart : part ∈ Model.declarations units)
    (hfield : field ∈ decoratedFields part.2) :
    HasField (collect units) part.2.qualifiedName part.1 field := by
  refine List.foldlRecOn
    (motive := fun registry => HasField registry part.2.qualifiedName part.1 field) _ _ ?_
    fun _ h later _ => h.modify later.2.qualifiedName later.2.modifiers
  obtain ⟨before, after, hparts⟩ := List.append_of_mem hpart
  rw [hparts, List.foldl_append, List.foldl_cons]
  exact List.foldlRecOn
    (motive := fun registry => HasField registry part.2.qualifiedName part.1 field) _ _
    (hasField_collectDecl_self hfield) fun _ h later _ => h.collectDecl later.1 later.2

end ObservableType

end Companion
