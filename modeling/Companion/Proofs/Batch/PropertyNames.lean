import Companion.Proofs.Batch.Properties
import Companion.Proofs.Concrete.Mirror
import Companion.Proofs.Symbol.Declared

/-!
# Names of generated properties

A type cannot have two properties of one name, nor one of its own name, and a name has to be an
identifier. The names of observable properties come from markers and are checked, so a type with
names that cannot be used is skipped. The names of a concrete type come from its interface and are
not checked: `usable_names_iff` says that its companion has names that can be used exactly if the
declarations of the interface have.
-/

namespace Companion

/-- A type with this name can have properties with these names. -/
structure UsableNames (typeName : String) (names : List String) : Prop where
  nodup : names.Nodup
  isIdentifier : ∀ name ∈ names, Naming.isIdentifier name = true
  ne_type : ∀ name ∈ names, name ≠ typeName

instance (typeName : String) (names : List String) : Decidable (UsableNames typeName names) :=
  decidable_of_iff
    (names.Nodup ∧ (∀ name ∈ names, Naming.isIdentifier name = true) ∧
      ∀ name ∈ names, name ≠ typeName)
    ⟨fun ⟨hnodup, hidentifier, htype⟩ => ⟨hnodup, hidentifier, htype⟩,
      fun h => ⟨h.nodup, h.isIdentifier, h.ne_type⟩⟩

open Code

/-- The names of the properties of a file, in order. -/
def Code.SourceFile.propertyNames (file : SourceFile) : List String := file.properties.map (·.name)

theorem Code.SourceFile.propertyNames_eq (file : SourceFile) :
    file.propertyNames = file.generatedProperties.map (·.name) := by
  rw [propertyNames, properties, generatedProperties, List.map_filterMap, List.map_filterMap]
  refine List.filterMap_congr fun item _ => ?_
  cases item with
  | property docs modifiers type name accessors => cases accessors <;> rfl
  | event | method | constructor => rfl

/-- The declared type can have the properties of the file. -/
def Code.SourceFile.HasUsableNames (file : SourceFile) : Prop :=
  UsableNames file.declaration.name file.propertyNames

instance (file : SourceFile) : Decidable file.HasUsableNames :=
  inferInstanceAs (Decidable (UsableNames file.declaration.name file.propertyNames))

/-- The names of the properties that the declarations of a type have, in order. -/
def propertyNamesOf (units : List SourceUnit) (key : TypeKey) : List String :=
  (Model.partsOf units key).flatMap fun part => part.2.properties.map (·.name)

/-! ## Observable types -/

theorem ObservableType.usableNames_of_validate {t : ObservableType} (h : t.validate = .ok ()) :
    UsableNames t.name (t.fields.map (·.arguments.name)) := by
  obtain ⟨hfields, hnodup⟩ := validateFields_eq_ok_iff.mp h
  refine ⟨hnodup, ?_, ?_⟩
  · intro name hname
    obtain ⟨field, hfield, rfl⟩ := List.mem_map.mp hname
    exact (hfields field hfield).1
  · intro name hname
    obtain ⟨field, hfield, rfl⟩ := List.mem_map.mp hname
    exact (hfields field hfield).2.1

namespace Batch

section

variable {model : Model} {options : Options} {units : List SourceUnit} {names : List String}
  {t : ObservableType} {file : SourceFile}

theorem hasUsableNames_of_observableFile (h : observableFile model options names t = .ok file) :
    file.HasUsableNames := by
  have hname : file.declaration.name = t.name := by
    obtain ⟨policy, -, hsynthesize⟩ := observableFile_eq_ok_iff.mp h
    obtain ⟨-, rfl⟩ := ObservableType.synthesize_eq_ok_iff.mp hsynthesize
    rfl
  have hnames : file.propertyNames = t.fields.map (·.arguments.name) := by
    rw [SourceFile.propertyNames, properties_of_observableFile h, List.map_map]
    rfl
  rw [SourceFile.HasUsableNames, hname, hnames]
  exact ObservableType.usableNames_of_validate (validate_of_observableFile h)

/-- Unless the batch is aborted, a type without a companion is reported as malformed. -/
theorem exists_diagnostic_of_invalid {output : Output} {name : String}
    (hrun : (generateObservable model options units output).1.aborted = false)
    (hentry : (ObservableType.collect units).get? name = some t) (hinvalid : t.validate ≠ .ok ()) :
    ∃ d ∈ (generateObservable model options units output).2.diagnostics,
      d.code = .malformedInput ∧ d.typeName = t.fullName := by
  obtain ⟨hreached, e, houtcome, hskips⟩ := exists_failed_of_invalid hrun hentry hinvalid
  refine ⟨.ofError e t.fullName, ?_, of_decide_eq_true hskips, rfl⟩
  rw [generateObservable, run_eq]
  refine List.mem_append_right _ (List.mem_filterMap.mpr ⟨_, hreached, ?_⟩)
  rw [Task.diagnostic?, houtcome]
  rfl

end

end Batch

/-! ## Concrete types -/

theorem Model.map_name_properties {units : List SourceUnit} {key : TypeKey} {s : Symbol}
    (h : (ofUnits units).lookup? key = some s) :
    s.properties.map Member.name = propertyNamesOf units key := by
  rw [properties_of_lookup? h, propertyNamesOf, List.map_flatMap]
  simp only [List.map_map]
  rfl

namespace ConcreteType

variable {model : Model} {interface : Symbol} {arguments : ConcreteArguments} {options : Options}
  {properties : List InterfaceProperty}

theorem map_name_of_readProperties
    (h : readProperties interface model arguments options = .ok properties) :
    interface.properties.map Member.name = properties.map (·.name) := by
  rw [← List.forall₂_eq_eq_eq, List.forall₂_map_left_iff, List.forall₂_map_right_iff]
  refine (forall₂_readMember?_of_readProperties h).imp fun member p hread => ?_
  -- Whatever accessors the property gets, it has the name of the member.
  obtain ⟨typeName, hasSetter, type, rfl, -⟩ := isMirror_of_readMember? hread (.auto .absent)
  rfl

end ConcreteType

namespace Batch

variable {options : Options} {units : List SourceUnit}

theorem hasUsableNames_of_concreteFile_iff {t : ConcreteType} {interface : Symbol}
    {file : SourceFile} (hlookup : (Model.ofUnits units).lookup? interface.key = some interface)
    (h : concreteFile (.ofUnits units) options t interface = .ok file) :
    file.HasUsableNames ↔ UsableNames t.name (propertyNamesOf units interface.key) := by
  obtain ⟨properties, hread, rfl⟩ := exists_of_concreteFile h
  have hnames : ((furnish interface properties t).synthesize options).propertyNames =
      propertyNamesOf units interface.key := by
    rw [SourceFile.propertyNames_eq, ConcreteType.map_name_generatedProperties,
      ← Model.map_name_properties hlookup, ConcreteType.map_name_of_readProperties hread]
    rfl
  rw [SourceFile.HasUsableNames, hnames]
  rfl

/-! ## Both -/

/-- The properties of an observable type have names that can be used; a type for which they cannot
is skipped as malformed. The properties of a concrete type have names that can be used exactly if
the declarations of its interface give it such names. -/
theorem usable_names_iff (options : Options) (units : List SourceUnit) (output : Output) :
    let model := Model.ofUnits units
    let (report, result) := generateObservable model options units output
    (∀ file ∈ emitted (observableTasks model options units), file.HasUsableNames) ∧
    (report.aborted = false → ∀ t ∈ (ObservableType.collect units).values,
      ¬UsableNames t.name (t.fields.map (·.arguments.name)) →
        t.fullName ∈ report.skipped ∧
          ∃ d ∈ result.diagnostics, d.code = .malformedInput ∧ d.typeName = t.fullName) ∧
    ∀ file ∈ emitted (concreteTasks model options units),
      ∃ t ∈ (ConcreteType.collect units).values, ∃ interface,
        model.lookupMetadata? (String.ofList (interfaceNameOf t)) = some interface ∧
          concreteFile model options t interface = .ok file ∧
          (file.HasUsableNames ↔ UsableNames t.name (propertyNamesOf units interface.key)) := by
  refine ⟨fun file hfile => ?_, fun hrun t ht hunusable => ?_, fun file hfile => ?_⟩
  · obtain ⟨t, -, hfile⟩ := exists_of_mem_emitted hfile
    exact hasUsableNames_of_observableFile hfile
  · obtain ⟨name, hentry⟩ := Registry.mem_values_iff.mp ht
    have hinvalid : t.validate ≠ .ok () := fun hvalid =>
      hunusable (ObservableType.usableNames_of_validate hvalid)
    exact ⟨mem_skipped_of_invalid hrun hentry hinvalid,
      exists_diagnostic_of_invalid hrun hentry hinvalid⟩
  · obtain ⟨t, ht, interface, hfound, hcompanion⟩ := exists_of_mem_emitted_concrete hfile
    exact ⟨t, ht, interface, hfound, hcompanion, hasUsableNames_of_concreteFile_iff
      (Model.lookup?_key_of_lookupMetadata? hfound) hcompanion⟩

/-- A property with the name of its type, and an interface in two parts with names that can be
used. -/
def counterAndPerson : List SourceUnit :=
  [{ types := [
      { name := "Counter"
        fields := [{ name := some "_count", typeName := some "int"
                     attributes := [⟨"MakeProperty", ["\"Counter\""]⟩] }] },
      { name := "IPerson", kind := .interface
        properties := [{ name := "Name", typeName := "string" }] },
      { name := "IPerson", kind := .interface
        properties := [{ name := "Age", typeName := "int" }] },
      { name := "Person", attributes := [⟨"MakeConcrete", ["\"IPerson\""]⟩] }] }]

theorem counterAndPerson_usable_names :
    let model := Model.ofUnits counterAndPerson
    (∃ d ∈ (generateObservable model {} counterAndPerson {}).2.diagnostics,
      d.code = .malformedInput ∧ d.typeName = "Counter") ∧
    ∃ file ∈ emitted (concreteTasks model {} counterAndPerson),
      file.propertyNames = ["Name", "Age"] ∧ file.HasUsableNames := by
  intro model
  obtain ⟨-, hmalformed, hconcrete⟩ := usable_names_iff {} counterAndPerson {}
  constructor
  · have hcounter : ∃ t ∈ (ObservableType.collect counterAndPerson).values,
        t.fullName = "Counter" ∧ ¬UsableNames t.name (t.fields.map (·.arguments.name)) := by
      decide +kernel
    obtain ⟨t, ht, hname, hunusable⟩ := hcounter
    exact hname ▸ (hmalformed (by decide +kernel) t ht hunusable).2
  · have hfile : ∃ file ∈ emitted (concreteTasks model {} counterAndPerson),
        file.propertyNames = ["Name", "Age"] := by
      decide +kernel
    have hdeclared : ∀ t ∈ (ConcreteType.collect counterAndPerson).values,
        ∀ s ∈ model.lookupMetadata? (String.ofList (interfaceNameOf t)),
          UsableNames t.name (propertyNamesOf counterAndPerson s.key) := by
      decide +kernel
    obtain ⟨file, hemitted, hnames⟩ := hfile
    obtain ⟨t, ht, interface, hfound, -, hiff⟩ := hconcrete file hemitted
    exact ⟨file, hemitted, hnames, hiff.mpr (hdeclared t ht interface hfound)⟩

/-- An interface with a property that has the name of the type that is to get it. -/
def personOfPerson : List SourceUnit :=
  [{ types := [
      { name := "IPerson", kind := .interface
        properties := [{ name := "Person", typeName := "string" }] },
      { name := "Person", attributes := [⟨"MakeConcrete", ["\"IPerson\""]⟩] }] }]

/-- The property is generated, and nothing is reported. -/
theorem personOfPerson_unusable_name :
    let model := Model.ofUnits personOfPerson
    let (report, result) := generateConcrete model {} personOfPerson {}
    report.aborted = false ∧ report.skipped = [] ∧ result.diagnostics = [] ∧
      ∃ file ∈ emitted (concreteTasks model {} personOfPerson),
        file.declaration.name = "Person" ∧ file.propertyNames = ["Person"] ∧
          ¬file.HasUsableNames := by
  decide +kernel

end Batch

end Companion
