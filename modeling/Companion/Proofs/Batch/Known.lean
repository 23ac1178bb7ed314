import Companion.Proofs.Batch.Policies
import Companion.Proofs.Concrete.Collect
import Companion.Proofs.Symbol.Declared

/-!
# Known types

A batch looks every type up in the model before it generates anything for it. It would take a type
that it does not find for one without ancestors. This never happens with the model of the units from
which the types are collected, as it is when sources are generated from manifests. The names of
entries, symbols and declarations are put together by different functions, but an entry has the key
of a declaration (`ObservableType.exists_part_of_mem`, `ConcreteType.exists_part_of_mem`), and the
model has a symbol for each of these.
-/

namespace Companion

/-- A symbol is what the model of some units has under a key. There are declarations with the key,
and the base of the symbol is the first that one of them names. -/
structure Model.IsKnownAs (units : List SourceUnit) (key : TypeKey) (s : Symbol) : Prop where
  lookup : (ofUnits units).lookup? key = some s
  declared : partsOf units key ≠ []
  base : s.base = (partsOf units key).findSome? (baseIn? units)

variable {units : List SourceUnit}

theorem Model.exists_isKnownAs {part : List String × TypeDecl}
    (hpart : part ∈ declarations units) : ∃ s, IsKnownAs units part.2.key s := by
  obtain ⟨s, hs, -⟩ := knows_ofUnits hpart
  have hsymbol := (lookup?_eq_symbolOf? units part.2.key).symm.trans hs
  obtain ⟨first, -, rfl⟩ := Option.map_eq_some_iff.mp hsymbol
  exact ⟨_, hs, List.ne_nil_of_mem (mem_partsOf.mpr ⟨hpart, rfl⟩), rfl⟩

/-! ## Entries -/

theorem ObservableType.exists_part_of_mem {t : ObservableType} (h : t ∈ (collect units).values) :
    ∃ part ∈ Model.declarations units, t.key = part.2.key := by
  obtain ⟨name, hname⟩ := Registry.mem_values_iff.mp h
  obtain ⟨part, hpart, -, hof⟩ := allDeclared_collect units name t hname
  exact ⟨part, hpart, hof.key_eq⟩

theorem ConcreteType.exists_part_of_mem {t : ConcreteType} (h : t ∈ (collect units).values) :
    ∃ part ∈ Model.declarations units, t.key = part.2.key := by
  obtain ⟨name, hname⟩ := Registry.mem_values_iff.mp h
  obtain ⟨_, -, ⟨decl, hdecl, hof⟩, -⟩ := exists_of_get?_collect hname
  obtain ⟨⟨usings, hpart⟩, -⟩ := Model.mem_declaredUnder.mp hdecl
  exact ⟨(usings, decl), hpart, hof.key_eq⟩

namespace Batch

open Code (SourceFile)

variable {model : Model} {options : Options} {names : List String} {t : ObservableType}
  {s : Symbol}

/-! ## Batches of known types -/

/-- The companion of an observable type with a symbol. -/
def companionOf (model : Model) (options : Options) (names : List String) (t : ObservableType)
    (s : Symbol) : Except GenerateError SourceFile := do
  let chain ← model.ancestors s
  let policy := EventPolicy.along (isOwner names) options.globalHookName chain
  (prepare model policy t).synthesize options

/-- The tasks of a batch, if the model has a symbol for every observable type. -/
def knownTasks? (model : Model) (options : Options) (units : List SourceUnit) :
    Option (List Task) :=
  let registry := ObservableType.collect units
  registry.values.mapM fun t => do
    let s ← model.lookup? t.key
    return ⟨t.fullName, t.name, .ofExcept (companionOf model options (owners registry) t s)⟩

theorem observableFile_of_lookup? (h : model.lookup? t.key = some s) :
    observableFile model options names t = companionOf model options names t s := by
  rw [observableFile, policyOf_of_lookup? h, companionOf]
  cases model.ancestors s <;> rfl

theorem checkAncestors_of_lookup? {key : TypeKey} (h : model.lookup? key = some s) :
    checkAncestors model key = (model.ancestors s).map fun _ => () := by
  rw [checkAncestors, h]

theorem mapM_eq_some_map {α β : Type} {f : α → Option β} {g : α → β} {l : List α}
    (h : ∀ a ∈ l, f a = some (g a)) : l.mapM f = some (l.map g) := by
  induction l with
  | nil => rfl
  | cons a l ih =>
    rw [List.forall_mem_cons] at h
    rw [List.mapM_cons, h.1, ih h.2]
    rfl

theorem knownTasks?_eq_some (options : Options)
    (h : ∀ t ∈ (ObservableType.collect units).values, ∃ s, model.lookup? t.key = some s) :
    knownTasks? model options units = some (observableTasks model options units) := by
  refine mapM_eq_some_map fun t ht => ?_
  obtain ⟨s, hs⟩ := h t ht
  rw [hs, observableFile_of_lookup? hs]
  rfl

/-- The model of some units has a symbol for every type that is collected from them. So the ancestors
of the symbol decide the policy of an observable type and whether a concrete type is refused, and a
batch of observable types has the same tasks if it stops short at unknown types. -/
theorem collected_known (units : List SourceUnit) :
    (∀ t ∈ (ObservableType.collect units).values,
      ∃ s, Model.IsKnownAs units (t.fullName, t.typeParameters.length) s ∧
        ∀ hook names, policyOf (.ofUnits units) hook names t =
          ((Model.ofUnits units).ancestors s).map (.along (isOwner names) hook)) ∧
    (∀ t ∈ (ConcreteType.collect units).values,
      ∃ s, Model.IsKnownAs units (t.fullName, t.typeParameters.length) s ∧
        checkAncestors (.ofUnits units) t.key =
          ((Model.ofUnits units).ancestors s).map fun _ => ()) ∧
    ∀ options, knownTasks? (.ofUnits units) options units =
      some (observableTasks (.ofUnits units) options units) := by
  have hobservable : ∀ t ∈ (ObservableType.collect units).values,
      ∃ s, Model.IsKnownAs units t.key s := by
    intro t ht
    obtain ⟨part, hpart, hkey⟩ := ObservableType.exists_part_of_mem ht
    rw [hkey]
    exact Model.exists_isKnownAs hpart
  have hconcrete : ∀ t ∈ (ConcreteType.collect units).values,
      ∃ s, Model.IsKnownAs units t.key s := by
    intro t ht
    obtain ⟨part, hpart, hkey⟩ := ConcreteType.exists_part_of_mem ht
    rw [hkey]
    exact Model.exists_isKnownAs hpart
  refine ⟨fun t ht => ?_, fun t ht => ?_, fun options => ?_⟩
  · obtain ⟨s, hs⟩ := hobservable t ht
    exact ⟨s, hs, fun _ _ => policyOf_of_lookup? hs.lookup⟩
  · obtain ⟨s, hs⟩ := hconcrete t ht
    exact ⟨s, hs, checkAncestors_of_lookup? hs.lookup⟩
  · refine knownTasks?_eq_some options fun t ht => ?_
    obtain ⟨s, hs⟩ := hobservable t ht
    exact ⟨s, hs.lookup⟩

/-- A generic type with both markers. One part is in the empty namespace and names the base, the other
is in no namespace at all. -/
def looseLeaf : List SourceUnit :=
  [{ types := [
      { namespaceName := some "", name := "Leaf", typeParameters := ["T"], baseList := ["Root"]
        attributes := [⟨"MakeConcrete", ["\"ILeaf\""]⟩] },
      { name := "Root" }] },
    { types := [
      { name := "Leaf", typeParameters := ["U"]
        fields := [{ name := some "_size", typeName := some "int"
                     attributes := [⟨"MakeProperty", ["\"Size\""]⟩] }] }] }]

theorem looseLeaf_collected_known :
    (∃ t ∈ (ObservableType.collect looseLeaf).values, t.namespaceName = none ∧ t.name = "Leaf" ∧
      ∃ s, Model.IsKnownAs looseLeaf ("Leaf", 1) s ∧ s.base = some ("Root", 0)) ∧
    ∃ t ∈ (ConcreteType.collect looseLeaf).values, t.namespaceName = none ∧ t.name = "Leaf" ∧
      ∃ s, Model.IsKnownAs looseLeaf ("Leaf", 1) s ∧ s.base = some ("Root", 0) := by
  obtain ⟨hobservable, hconcrete, -⟩ := collected_known looseLeaf
  have hbase : (Model.partsOf looseLeaf ("Leaf", 1)).findSome? (Model.baseIn? looseLeaf) =
      some ("Root", 0) := by
    decide +kernel
  constructor
  · have hentry : ((ObservableType.collect looseLeaf).values.map fun t =>
        (t.namespaceName, t.name, t.typeParameters)) = [(none, "Leaf", ["U"])] := by
      decide +kernel
    obtain ⟨t, ht, hview⟩ := List.exists_of_mem_map (hentry ▸ List.mem_singleton_self _)
    simp only [Prod.mk.injEq] at hview
    obtain ⟨s, hs, -⟩ := hobservable t ht
    rw [ObservableType.fullName, hview.1, hview.2.1, hview.2.2] at hs
    exact ⟨t, ht, hview.1, hview.2.1, s, hs, hs.base.trans hbase⟩
  · have hentry : ((ConcreteType.collect looseLeaf).values.map fun t =>
        (t.namespaceName, t.name, t.typeParameters)) = [(none, "Leaf", ["T"])] := by
      decide +kernel
    obtain ⟨t, ht, hview⟩ := List.exists_of_mem_map (hentry ▸ List.mem_singleton_self _)
    simp only [Prod.mk.injEq] at hview
    obtain ⟨s, hs, -⟩ := hconcrete t ht
    rw [ConcreteType.fullName, hview.1, hview.2.1, hview.2.2] at hs
    exact ⟨t, ht, hview.1, hview.2.1, s, hs, hs.base.trans hbase⟩

end Batch

end Companion
