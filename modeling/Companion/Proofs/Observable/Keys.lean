import Companion.Proofs.Observable.Fields

/-!
# Entries and types

The model of some units knows a type by its full name and the number of its type parameters. The
registry of observable types has its entries under qualified names, in which that number is missing.
`collectsByKey_iff` says when the two agree on what a type is: exactly if no two declarations with
eligible fields share their full name and differ in the number of type parameters. Where they do
differ, the fields of both types come together in one entry.
-/

namespace Companion

/-- Some field of the declaration is to become a property. -/
def TypeDecl.isDecorated (decl : TypeDecl) : Bool := decl.fields.any decl.isEligible

/-- The fields that are to become properties of the type with a key, in order. -/
def eligibleFieldsOf (units : List SourceUnit) (key : TypeKey) : List FieldDecl :=
  (Model.declarations units).flatMap fun part =>
    if part.2.key = key then part.2.fields.filter part.2.isEligible else []

namespace ObservableType

/-- The registry and the model have the same notion of a type: there is one entry for each type with
eligible fields, it has just the fields of that type, and the model knows the type under the same
key. -/
structure CollectsByKey (units : List SourceUnit) : Prop where
  nodup : ((collect units).values.map key).Nodup
  mem_keys_iff : ∀ typeKey, typeKey ∈ (collect units).values.map key ↔
    ∃ part ∈ Model.declarations units, part.2.isDecorated = true ∧ part.2.key = typeKey
  fields : ∀ t ∈ (collect units).values,
    List.Forall₂ FieldDecl.Describes (eligibleFieldsOf units t.key)
      (t.fields.map DecoratedField.view)
  known : ∀ t ∈ (collect units).values,
    ∃ s, (Model.ofUnits units).lookup? t.key = some s ∧ s.key = t.key

/-- Declarations with eligible fields and the same full name have the same number of type
parameters. -/
def NoDecoratedOverloads (units : List SourceUnit) : Prop :=
  ∀ part ∈ Model.declarations units, ∀ part' ∈ Model.declarations units,
    part.2.isDecorated = true → part'.2.isDecorated = true →
      part.2.fullName = part'.2.fullName → part.2.arity = part'.2.arity

instance (units : List SourceUnit) : Decidable (NoDecoratedOverloads units) :=
  inferInstanceAs (Decidable (∀ part ∈ Model.declarations units,
    ∀ part' ∈ Model.declarations units, part.2.isDecorated = true →
      part'.2.isDecorated = true → part.2.fullName = part'.2.fullName →
        part.2.arity = part'.2.arity))

theorem decoratedFields_eq_nil_iff (decl : TypeDecl) :
    decoratedFields decl = [] ↔ decl.isDecorated = false := by
  have hlength := (forall₂_describes_decoratedFields decl).length_eq
  rw [List.length_map] at hlength
  rw [← List.length_eq_zero_iff, ← hlength, List.length_eq_zero_iff, List.filter_eq_nil_iff,
    TypeDecl.isDecorated, List.any_eq_false]

/-- Every entry is that of a declaration with eligible fields. -/
theorem allDeclared_collect_decorated (units : List SourceUnit) :
    AllDeclared ((Model.declarations units).filter fun part => part.2.isDecorated)
      (collect units) := by
  refine List.foldlRecOn (motive := AllDeclared _) _ _ ?_
    fun _ h part _ => h.modify part.2.qualifiedName part.2.modifiers
  refine List.foldlRecOn (motive := AllDeclared _) _ _ (fun key t ht => by cases ht) ?_
  intro registry h part hpart
  cases hdecorated : part.2.isDecorated with
  | true => exact h.collectDecl (List.mem_filter.mpr ⟨hpart, hdecorated⟩)
  | false =>
    have hsame : collectDecl registry part.1 part.2 = registry := by
      rw [collectDecl, (decoratedFields_eq_nil_iff part.2).mpr hdecorated]
      rfl
    change AllDeclared _ (collectDecl registry part.1 part.2)
    rw [hsame]
    exact h

variable {units : List SourceUnit} {part : List String × TypeDecl} {t : ObservableType}

theorem exists_entry_of_isDecorated (hpart : part ∈ Model.declarations units)
    (hdecorated : part.2.isDecorated = true) :
    ∃ t, (collect units).get? part.2.qualifiedName = some t := by
  have hne : decoratedFields part.2 ≠ [] := by
    rw [Ne, decoratedFields_eq_nil_iff, hdecorated]
    exact Bool.noConfusion
  obtain ⟨field, hfield⟩ := List.exists_mem_of_ne_nil _ hne
  obtain ⟨t, ht, -⟩ := hasField_collect hpart hfield
  exact ⟨t, ht⟩

/-- An entry and the declaration with eligible fields that it was made from. -/
structure EnteredFrom (units : List SourceUnit) (name : String) (t : ObservableType)
    (part : List String × TypeDecl) : Prop where
  entry : (collect units).get? name = some t
  mem : part ∈ Model.declarations units
  isDecorated : part.2.isDecorated = true
  qualifiedName : part.2.qualifiedName = name
  isOf : t.IsOf part.2

variable {name name' : String} {t' : ObservableType} {part' : List String × TypeDecl}

theorem exists_enteredFrom (h : (collect units).get? name = some t) :
    ∃ part, EnteredFrom units name t part := by
  obtain ⟨part, hpart, hname, hof⟩ := allDeclared_collect_decorated units name t h
  obtain ⟨hmem, hdecorated⟩ := List.mem_filter.mp hpart
  exact ⟨part, h, hmem, hdecorated, hname, hof⟩

theorem exists_enteredFrom_of_mem (h : t ∈ (collect units).values) :
    ∃ name part, EnteredFrom units name t part := by
  obtain ⟨name, hname⟩ := Registry.mem_values_iff.mp h
  exact ⟨name, exists_enteredFrom hname⟩

/-- Entries are told apart by the full names of their types. -/
theorem EnteredFrom.name_eq_iff (hplain : Model.PlainNames units)
    (h : EnteredFrom units name t part) (h' : part' ∈ Model.declarations units) :
    part'.2.qualifiedName = name ↔ part'.2.fullName = part.2.fullName := by
  rw [← h.qualifiedName]
  exact TypeDecl.qualifiedName_eq_iff (hplain part' h') (hplain part h.mem)

theorem nodup_map_key (hplain : Model.PlainNames units) :
    ((collect units).values.map key).Nodup := by
  have hdistinct := (collect units).distinct
  rw [Registry.values, List.map_map]
  rw [List.Nodup, List.pairwise_map] at hdistinct ⊢
  refine hdistinct.imp_of_mem fun {a b} ha hb hne hkey => hne ?_
  obtain ⟨part, hpart⟩ := exists_enteredFrom (Registry.get?_eq_some_iff.mpr ha)
  obtain ⟨part', hpart'⟩ := exists_enteredFrom (Registry.get?_eq_some_iff.mpr hb)
  have hsame : part.2.key = part'.2.key := by
    rw [← hpart.isOf.key_eq, ← hpart'.isOf.key_eq]
    exact hkey
  rw [← hpart.qualifiedName]
  exact (hpart'.name_eq_iff hplain hpart.mem).mpr (congrArg Prod.fst hsame)

/-! ## Types without overloads -/

section

variable (hplain : Model.PlainNames units) (harity : NoDecoratedOverloads units)

include hplain harity

/-- A declaration with eligible fields belongs to an entry exactly if it has the same key. -/
theorem EnteredFrom.name_eq_iff_key_eq (h : EnteredFrom units name t part)
    (hpart' : part' ∈ Model.declarations units) (hdecorated : part'.2.isDecorated = true) :
    part'.2.qualifiedName = name ↔ part'.2.key = t.key := by
  rw [h.name_eq_iff hplain hpart', h.isOf.key_eq, TypeDecl.key, TypeDecl.key, Prod.mk.injEq]
  exact ⟨fun hname => ⟨hname, harity _ hpart' _ h.mem hdecorated h.isDecorated hname⟩, And.left⟩

theorem EnteredFrom.eligibleFields_eq (h : EnteredFrom units name t part) :
    eligibleFields units name = eligibleFieldsOf units t.key := by
  refine List.flatMap_congr fun part' hpart' => ?_
  cases hdecorated : part'.2.isDecorated with
  | true => rw [if_congr (h.name_eq_iff_key_eq hplain harity hpart' hdecorated) rfl rfl]
  | false =>
    have hnone : part'.2.fields.filter part'.2.isEligible = [] := by
      rw [TypeDecl.isDecorated, List.any_eq_false] at hdecorated
      exact List.filter_eq_nil_iff.mpr hdecorated
    rw [hnone, ite_self, ite_self]

theorem collectsByKey_of_noDecoratedOverloads : CollectsByKey units where
  nodup := nodup_map_key hplain
  mem_keys_iff := by
    intro typeKey
    constructor
    · intro hmem
      obtain ⟨t, ht, rfl⟩ := List.mem_map.mp hmem
      obtain ⟨name, part, hpart⟩ := exists_enteredFrom_of_mem ht
      exact ⟨part, hpart.mem, hpart.isDecorated, hpart.isOf.key_eq.symm⟩
    · rintro ⟨part, hpart, hdecorated, rfl⟩
      obtain ⟨t, ht⟩ := exists_entry_of_isDecorated hpart hdecorated
      obtain ⟨first, hfirst⟩ := exists_enteredFrom ht
      refine List.mem_map.mpr ⟨t, Registry.mem_values_iff.mpr ⟨_, ht⟩, Eq.symm ?_⟩
      exact (hfirst.name_eq_iff_key_eq hplain harity hpart hdecorated).mp rfl
  fields := by
    intro t ht
    obtain ⟨name, part, hpart⟩ := exists_enteredFrom_of_mem ht
    have hdescribes := forall₂_describes_collect units name
    rw [fieldsUnder, hpart.entry, hpart.eligibleFields_eq hplain harity] at hdescribes
    exact hdescribes
  known := by
    intro t ht
    obtain ⟨name, part, hpart⟩ := exists_enteredFrom_of_mem ht
    obtain ⟨s, hs, -⟩ := Model.knows_ofUnits hpart.mem
    rw [← hpart.isOf.key_eq] at hs
    exact ⟨s, hs, Model.key_of_lookup? hs⟩

end

/-- Two types that have an entry each do not share a full name. -/
theorem CollectsByKey.noDecoratedOverloads (h : CollectsByKey units)
    (hplain : Model.PlainNames units) : NoDecoratedOverloads units := by
  intro part hpart part' hpart' hdecorated hdecorated' hname
  obtain ⟨t, ht, hkey⟩ := List.mem_map.mp ((h.mem_keys_iff _).mpr ⟨part, hpart, hdecorated, rfl⟩)
  obtain ⟨t', ht', hkey'⟩ :=
    List.mem_map.mp ((h.mem_keys_iff _).mpr ⟨part', hpart', hdecorated', rfl⟩)
  obtain ⟨name, first, hfirst⟩ := exists_enteredFrom_of_mem ht
  obtain ⟨name', first', hfirst'⟩ := exists_enteredFrom_of_mem ht'
  have hfull : first'.2.fullName = first.2.fullName := by
    have hof : first.2.key = part.2.key := hfirst.isOf.key_eq.symm.trans hkey
    have hof' : first'.2.key = part'.2.key := hfirst'.isOf.key_eq.symm.trans hkey'
    exact (congrArg Prod.fst hof').trans (hname.symm.trans (congrArg Prod.fst hof).symm)
  -- one qualified name has one entry
  have hsame : name' = name :=
    hfirst'.qualifiedName.symm.trans ((hfirst.name_eq_iff hplain hfirst'.mem).mpr hfull)
  have hentry : t = t' := Option.some.inj (hfirst.entry.symm.trans (hsame ▸ hfirst'.entry))
  have hkeys : part.2.key = part'.2.key := hkey.symm.trans (hentry ▸ hkey')
  exact congrArg Prod.snd hkeys

/-- The registry and the model agree on what a type is exactly if no two declarations with eligible
fields share their full name and differ in the number of type parameters. -/
theorem collectsByKey_iff (hplain : Model.PlainNames units) :
    CollectsByKey units ↔ NoDecoratedOverloads units :=
  ⟨fun h => h.noDecoratedOverloads hplain, collectsByKey_of_noDecoratedOverloads hplain⟩

/-- A type in two parts, and an overload of it without eligible fields. -/
def boxInParts : List SourceUnit :=
  [{ types := [
      { namespaceName := some "App", name := "Box"
        fields := [{ name := some "_size", typeName := some "int"
                     attributes := [⟨"MakeProperty", ["\"Size\""]⟩] }] },
      { namespaceName := some "App", name := "Box", typeParameters := ["T"] }] },
    { types := [
      { namespaceName := some "App", name := "Box"
        fields := [{ name := some "_label", typeName := some "int"
                     attributes := [⟨"MakeProperty", ["\"Label\""]⟩] }] }] }]

theorem boxInParts_collectsByKey :
    Model.PlainNames boxInParts ∧ NoDecoratedOverloads boxInParts ∧ CollectsByKey boxInParts := by
  have hplain : Model.PlainNames boxInParts := by decide
  have harity : NoDecoratedOverloads boxInParts := by decide +kernel
  exact ⟨hplain, harity, (collectsByKey_iff hplain).mpr harity⟩

/-- A type and an overload of it, both with an eligible field. -/
def overloadedBox : List SourceUnit :=
  [{ types := [
      { namespaceName := some "App", name := "Box"
        fields := [{ name := some "_size", typeName := some "int"
                     attributes := [⟨"MakeProperty", ["\"Size\""]⟩] }] },
      { namespaceName := some "App", name := "Box", typeParameters := ["T"]
        fields := [{ name := some "_label", typeName := some "int"
                     attributes := [⟨"MakeProperty", ["\"Label\""]⟩] }] }] }]

/-- Both fields are in the entry of the first type, and the second type has no entry. -/
theorem not_collectsByKey_overloadedBox :
    Model.PlainNames overloadedBox ∧
      (collect overloadedBox).values.map (fun t => (t.key, t.fields.map (·.name))) =
        [(("App.Box", 0), ["_size", "_label"])] ∧
      ¬CollectsByKey overloadedBox := by
  have hentries : (collect overloadedBox).values.map (fun t => (t.key, t.fields.map (·.name))) =
      [(("App.Box", 0), ["_size", "_label"])] := by
    decide +kernel
  refine ⟨by decide, hentries, fun h => ?_⟩
  have hkeys : (collect overloadedBox).values.map key = [("App.Box", 0)] := by
    simpa using congrArg (List.map Prod.fst) hentries
  have hmem : ("App.Box", 1) ∈ (collect overloadedBox).values.map key := by
    refine (h.mem_keys_iff _).mpr ?_
    decide +kernel
  simp [hkeys] at hmem

end ObservableType

end Companion
