import Companion.Proofs.Batch.Policies
import Companion.Proofs.Concrete.Companion

/-!
# What the names in a companion mean

A companion repeats types as they are written in its source, in a scope of its own: other imports,
in another order, and in the case of an interface another namespace. So a name may come to mean
another type than where it was written. `meaning_kept_iff` says when it does not.
-/

namespace Companion

/-- The scope of the names in a file. -/
def Code.SourceFile.scope (file : SourceFile) : Scope := .of file.namespaceName file.usings

namespace Batch

open Code (SourceFile)

/-- A file takes over a type of its source in which a name occurs that is written in a scope: the
namespace of a declaration and the imports of its unit. -/
inductive TakesOver (options : Options) (units : List SourceUnit) (file : SourceFile) :
    Scope → TypeKey → Prop
  | field {usings : List String} {decl : TypeDecl} {field : DecoratedField} {name : TypeKey}
      (emitted : file ∈ emitted (observableTasks (.ofUnits units) options units))
      (declared : (usings, decl) ∈ Model.declarations units)
      (part : decl.qualifiedName = file.qualifiedName)
      (decorated : field ∈ ObservableType.decoratedFields decl)
      (occurs : name ∈ field.type.names) :
      TakesOver options units file (.of decl.namespaceName usings) name
  | property {t : ConcreteType} {interface : Symbol} {usings : List String} {decl : TypeDecl}
      {p : PropertyDecl} {type : TypeRef} {name : TypeKey}
      (emitted : file ∈ emitted (concreteTasks (.ofUnits units) options units))
      (marked : t ∈ (ConcreteType.collect units).values)
      (found : (Model.ofUnits units).lookupMetadata? (String.ofList (interfaceNameOf t)) =
        some interface)
      (companion : concreteFile (.ofUnits units) options t interface = .ok file)
      (declared : (usings, decl) ∈ Model.declarations units)
      (part : decl.key = interface.key)
      (mirrored : p ∈ decl.properties)
      (read : TypeRef.parse p.typeName = .ok type)
      (occurs : name ∈ type.names) :
      TakesOver options units file (.of decl.namespaceName usings) name

variable {model : Model} {options : Options} {units : List SourceUnit} {file : SourceFile}
  {scope : Scope} {name : TypeKey} {s : Symbol}

/-! ## What is resolved and what is imported -/

/-- A name is looked up in a wider scope than it is written in, with the imports of all parts of the
type together, and what it means there is imported in the file. -/
structure Resolves (model : Model) (file : SourceFile) (scope : Scope) (name : TypeKey)
    (wider : Scope) : Prop where
  namespaceName : scope.namespaceName = wider.namespaceName
  usings : scope.usings ⊆ wider.usings
  imports : ∀ ns ∈ model.namespaceOf? wider name, file.scope.Imports ns

theorem namespaceOf?_ne_empty {ns : String} (hmodel : model.IsPlain)
    (h : model.namespaceOf? scope name = some ns) : ns ≠ "" := by
  obtain ⟨r, hr, hns⟩ := Option.bind_eq_some_iff.mp h
  have hplain := hmodel r (Model.mem_of_lookup? (Model.lookup?_key_of_resolve? hr))
  rintro rfl
  exact hplain.namespaceName hns

theorem imports_of_observableFile {names : List String} {t : ObservableType}
    {field : DecoratedField} {ns : String} (hmodel : model.IsPlain)
    (h : observableFile model options names t = .ok file) (hfield : field ∈ t.fields)
    (hname : name ∈ field.type.names) (hns : model.namespaceOf? t.scope name = some ns) :
    file.scope.Imports ns := by
  obtain ⟨policy, -, hcompanion⟩ := isCompanion_of_observableFile h
  have hne := namespaceOf?_ne_empty hmodel hns
  rw [SourceFile.scope, hcompanion.namespaceName, hcompanion.usings]
  exact ObservableType.imports_companionUsings (List.mem_map_of_mem hfield)
    (Model.mem_requiredNamespaces hname hns hne)

theorem imports_of_concreteFile {t : ConcreteType} {interface : Symbol} {p : PropertyDecl}
    {type : TypeRef} {ns : String} (hmodel : model.IsPlain)
    (h : concreteFile model options t interface = .ok file)
    (hp : .property p.name p.typeName p.hasSetter ∈ interface.members)
    (htype : TypeRef.parse p.typeName = .ok type) (hname : name ∈ type.names)
    (hns : model.namespaceOf? interface.scope name = some ns) : file.scope.Imports ns := by
  obtain ⟨properties, hproperties, rfl⟩ := exists_of_concreteFile h
  obtain ⟨q, hq, hneeds⟩ := ConcreteType.exists_mem_of_readProperties hproperties hp htype
  have hne := namespaceOf?_ne_empty hmodel hns
  have hmem : ns ∈ q.namespaces.items := hneeds ▸ Model.mem_requiredNamespaces hname hns hne
  exact ConcreteType.imports_companionUsings (t := furnish interface properties t) hq hmem

/-- What is taken over is looked up first, with the imports of all parts. -/
theorem TakesOver.exists_resolves (h : TakesOver options units file scope name)
    (hunits : Model.PlainNames units) :
    ∃ wider, Resolves (.ofUnits units) file scope name wider := by
  have hmodel := Model.isPlain_ofUnits hunits
  cases h with
  | @field usings decl field _ hfile hpart hown hfield hname =>
    obtain ⟨t, ht⟩ := exists_emittedFrom hfile
    obtain ⟨u, hu, hmem, husings⟩ := ObservableType.hasField_collect hpart hfield
    obtain rfl : t = u := by
      rw [hown, ht.qualifiedName, ht.entry] at hu
      exact Option.some.inj hu
    obtain ⟨first, hfirst, hof⟩ := ht.isOf
    -- the entry may come from another part, but its qualified name gives the namespace away
    have hqualified : qualifiedNameIn t.namespaceName t.name =
        qualifiedNameIn (properNamespace decl.namespaceName) decl.name := by
      rw [qualifiedNameIn_properNamespace]
      exact (hown.trans ht.qualifiedName).symm
    obtain ⟨hns, -⟩ := qualifiedNameIn_inj (hof.namespaceName ▸ properNamespace_ne_empty _)
      (properNamespace_ne_empty _) (hof.name ▸ hunits first hfirst) (hunits _ hpart) hqualified
    refine ⟨t.scope, ?_, husings, fun ns hns =>
      imports_of_observableFile hmodel ht.observableFile hmem hname hns⟩
    rw [ObservableType.scope, Scope.of, Scope.of, hns, properNamespace_properNamespace]
  | @property t interface usings decl p type _ _ _ hfound hcompanion hpart hkey hp htype hname =>
    have hinterface := Model.lookup?_key_of_lookupMetadata? hfound
    obtain ⟨own, hown, hhas⟩ := Model.knows_ofUnits hpart
    obtain rfl : interface = own := by
      rw [hkey, hinterface] at hown
      exact Option.some.inj hown
    have hmember : p.member ∈ decl.members := TypeDecl.mem_members_iff.mpr (.property hp)
    obtain ⟨hns, -⟩ := (hmodel interface (Model.mem_of_lookup? hinterface)).eq_of_fullName
      (hunits _ hpart) (congrArg Prod.fst hkey).symm
    refine ⟨interface.scope, ?_, hhas.usings, fun ns hns =>
      imports_of_concreteFile hmodel hcompanion (hhas.members hmember) htype hname hns⟩
    rw [Symbol.scope, Scope.of, Scope.of, hns, properNamespace_properNamespace]

/-! ## Meaning -/

/-- A name keeps its meaning exactly if the type that it means is found in the scope of the file,
and no other type is found before it. One that is written in full always does. A simple name always
means something in the file, so it keeps its meaning unless another type is found first, and in
particular if no other type has its name and number of type parameters. -/
theorem meaning_kept_iff (h : TakesOver options units file scope name)
    (hs : (Model.ofUnits units).resolve? scope name.1 name.2 = some s) :
    let model := Model.ofUnits units
    let kept := model.resolve? file.scope name.1 name.2 = some s
    (kept ↔ s.fullName ∈ file.scope.candidates name.1 ∧ ¬model.Captures file.scope name.1 s) ∧
    (¬IsSimpleName name.1 → name.1 = s.fullName → kept) ∧
    (Model.PlainNames units → IsSimpleName name.1 →
      (kept ↔ ¬model.Captures file.scope name.1 s) ∧
      ((∀ r ∈ model.symbols, r.name = s.name → r.arity = s.arity → r.fullName = s.fullName) →
        kept)) := by
  intro model kept
  have hlookup := Model.lookup?_key_of_resolve? hs
  have harity := Model.arity_of_resolve? hs
  refine ⟨?_, ?_, ?_⟩
  · simp only [kept, ← harity]
    exact Model.resolve?_eq_some_iff hlookup
  · intro hdotted hfull
    simp only [kept, ← harity, hfull]
    exact Model.resolve?_fullName hlookup (hfull ▸ hdotted)
  · intro hunits hsimple
    have hmodel := Model.isPlain_ofUnits hunits
    obtain ⟨wider, hwider⟩ := h.exists_resolves hunits
    have hiff : kept ↔ ¬model.Captures file.scope name.1 s :=
      Model.resolve?_iff_of_imports hmodel hsimple hwider.namespaceName hwider.usings
        hwider.imports hs
    refine ⟨hiff, fun halone => hiff.mpr fun hcaptures => ?_⟩
    obtain ⟨ns, hfull⟩ := Scope.exists_fullNameIn (Model.fullName_mem_candidates hs)
    have hname := ((hmodel s (Model.mem_of_lookup? hlookup)).eq_of_fullName hsimple hfull).2
    obtain ⟨r, hr, hrname, hrarity, hne⟩ := hcaptures.exists_name_eq hmodel hsimple
    exact hne (halone r hr (hrname.trans hname.symm) hrarity)

/-- An interface with a property of a type of its own namespace, and a type elsewhere that is to get
that property. -/
def interfaceElsewhere : List SourceUnit :=
  [{ types := [
      { namespaceName := some "Lib", name := "IThing", kind := .interface
        properties := [{ name := "Part", typeName := "Part" }] },
      { namespaceName := some "Lib", name := "Part" },
      { namespaceName := some "Other", name := "Part" },
      { namespaceName := some "App", name := "Car"
        attributes := [⟨"MakeConcrete", ["\"Lib.IThing\""]⟩] }] }]

theorem meaning_kept_interfaceElsewhere :
    let model := Model.ofUnits interfaceElsewhere
    ∃ file ∈ emitted (concreteTasks model {} interfaceElsewhere), ∃ s,
      file.namespaceName = some "App" ∧ s.fullName = "Lib.Part" ∧
        TakesOver {} interfaceElsewhere file (.of (some "Lib") []) ("Part", 0) ∧
        model.resolve? (.of (some "Lib") []) "Part" 0 = some s ∧
        model.resolve? file.scope "Part" 0 = some s := by
  intro model
  let part : Symbol := { namespaceName := some "Lib", name := "Part" }
  have hwritten : model.resolve? (.of (some "Lib") []) "Part" 0 = some part := by decide +kernel
  have hfile : ∃ file ∈ emitted (concreteTasks model {} interfaceElsewhere),
      file.namespaceName = some "App" ∧ ¬model.Captures file.scope "Part" part := by
    decide +kernel
  have hinterface : ∀ t ∈ (ConcreteType.collect interfaceElsewhere).values,
      (model.lookupMetadata? (String.ofList (interfaceNameOf t))).map Symbol.key =
        some ("Lib.IThing", 0) := by
    decide +kernel
  obtain ⟨file, hemitted, hns, hfree⟩ := hfile
  obtain ⟨t, ht, interface, hfound, hcompanion⟩ := exists_of_mem_emitted_concrete hemitted
  have hkey := hinterface t ht
  rw [hfound] at hkey
  have hread : TypeRef.parse "Part" = .ok (.named "Part" []) := by with_unfolding_all rfl
  have htakes : TakesOver {} interfaceElsewhere file (.of (some "Lib") []) ("Part", 0) :=
    .property hemitted ht hfound hcompanion List.mem_cons_self (Option.some.inj hkey).symm
      List.mem_cons_self hread List.mem_cons_self
  refine ⟨file, hemitted, part, hns, rfl, htakes, hwritten, ?_⟩
  obtain ⟨-, -, hsimple⟩ := meaning_kept_iff htakes hwritten
  exact (hsimple (by decide +kernel) (by decide)).1.mpr hfree

/-- The second part of a type, with an import of its own. -/
def secondPart : TypeDecl :=
  { namespaceName := some "App", name := "Order"
    fields := [{ name := some "_item", typeName := some "Item"
                 attributes := [⟨"MakeProperty", ["\"Item\""]⟩] }] }

/-- A type in two parts with different imports, each of a namespace with a type `Item`. -/
def partImports : List SourceUnit :=
  [{ usings := ["Storage"]
     types := [
      { namespaceName := some "App", name := "Order"
        fields := [{ name := some "_count", typeName := some "int"
                     attributes := [⟨"MakeProperty", ["\"Count\""]⟩] }] }] },
   { usings := ["Sales"], types := [secondPart] },
   { types := [
      { namespaceName := some "Storage", name := "Item" },
      { namespaceName := some "Sales", name := "Item" }] }]

/-- The companion imports the other `Item`, not the one that is meant. -/
theorem meaning_changed_partImports :
    let model := Model.ofUnits partImports
    let written : Scope := .of (some "App") ["Sales"]
    ∃ file, TakesOver {} partImports file written ("Item", 0) ∧
      (model.resolve? written "Item" 0).map Symbol.fullName = some "Sales.Item" ∧
      (model.resolve? file.scope "Item" 0).map Symbol.fullName = some "Storage.Item" := by
  intro model written
  have hfile : ∃ file ∈ emitted (observableTasks model {} partImports),
      secondPart.qualifiedName = file.qualifiedName ∧
        (model.resolve? file.scope "Item" 0).map Symbol.fullName = some "Storage.Item" := by
    decide +kernel
  have hfield : ∃ field ∈ ObservableType.decoratedFields secondPart,
      ("Item", 0) ∈ field.type.names := by
    decide +kernel
  obtain ⟨file, hemitted, hpart, hmeans⟩ := hfile
  obtain ⟨field, hfield, hoccurs⟩ := hfield
  have hdeclared : (["Sales"], secondPart) ∈ Model.declarations partImports := by decide +kernel
  exact ⟨file, .field hemitted hdeclared hpart hfield hoccurs, by decide +kernel, hmeans⟩

end Batch

end Companion
