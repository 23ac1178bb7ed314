import Companion.Code.Printer
import Companion.Proofs.Batch.Accounting
import Companion.Proofs.Concrete.Companion
import Companion.Proofs.Concrete.Constructor

/-!
# A concrete type mirrors its interface

The properties of an interface are read, and the companion is made from what was read, in three
passes: one for the properties, one for the parameters of the constructor, and one for the
assignments in it. `synthesize_mirrors` says that the three agree with each other and with the
interface, that nothing is left out, and that a property without a setter gets its value in the
constructor. Reading fails at the first type that cannot be read, and for no other reason. Which
types become nullable depends on which are references (`Model.isReference_iff`).
-/

namespace Companion

namespace Code

/-- A property of a generated type. -/
structure GeneratedProperty where
  type : TypeRef
  name : String
  accessors : Accessors

def Item.generatedProperty? : Item → Option GeneratedProperty
  | .property _ _ type name accessors => some ⟨type, name, accessors⟩
  | .event .. | .method .. | .constructor .. => none

/-- The properties of a file, in order. -/
def SourceFile.generatedProperties (file : SourceFile) : List GeneratedProperty :=
  file.declaration.members.filterMap Item.generatedProperty?

/-- The constructors of a file, in order. -/
def SourceFile.constructors (file : SourceFile) : List (List Parameter × List Statement) :=
  file.declaration.members.filterMap Item.constructor?

/-- The property is printed without a setter. -/
def Accessors.isGetOnly : Accessors → Bool
  | .auto setter => setter.print = ""
  | .backed _ _ => false

/-- The variable or member that a statement assigns. -/
def Statement.target? : Statement → Option String
  | .assign (.ident name) _ => some name
  | _ => none

theorem filterMap_target?_assignments {targets names : List String}
    (hlength : targets.length = names.length) :
    (assignments targets names).filterMap Statement.target? = targets := by
  induction targets generalizing names with
  | nil => rfl
  | cons target targets ih =>
    cases names with
    | nil => cases hlength
    | cons name names => exact congrArg (target :: ·) (ih (Nat.succ.inj hlength))

end Code

/-! ## References -/

theorem TypeKind.isReference_iff {kind : TypeKind} :
    kind.isReference = true ↔ kind = .plainClass ∨ kind = .record ∨ kind = .interface := by
  cases kind <;> simp [isReference]

/-- A well-known value type may be written with the namespace `System` in front. -/
theorem withoutSystem_mem_iff {name : String} :
    withoutSystem name ∈ wellKnownValueTypes ↔
      ∃ simple ∈ wellKnownValueTypes, name = simple ∨ name = "System." ++ simple := by
  have hsystem (rest : String) : withoutSystem ("System." ++ rest) = rest := by
    have hafter : Text.after? "System.".toList ("System." ++ rest).toList = some rest.toList :=
      Text.after?_eq_some_iff.mpr String.toList_append
    rw [withoutSystem, hafter]
    exact String.ofList_toList
  constructor
  · intro h
    cases hafter : Text.after? "System.".toList name.toList with
    | none =>
      have hname : withoutSystem name = name := by rw [withoutSystem, hafter]; rfl
      exact ⟨name, hname ▸ h, .inl rfl⟩
    | some rest =>
      have hname : name = "System." ++ String.ofList rest := by
        rw [← String.toList_inj, Text.after?_eq_some_iff.mp hafter]
        simp
      rw [hname, hsystem] at h
      exact ⟨String.ofList rest, h, .inr hname⟩
  · rintro ⟨simple, hsimple, rfl | rfl⟩
    · -- none of them begins with `System` and a dot itself
      have hshort : ∀ known ∈ wellKnownValueTypes, withoutSystem known = known := by decide
      rwa [hshort _ hsimple]
    · rwa [hsystem]

/-- The types with reference semantics. -/
inductive Model.RefersTo (model : Model) (scope : Scope) : TypeRef → Prop
  | keyword {keyword : String} (h : keyword ∈ ["object", "string", "dynamic"]) :
      model.RefersTo scope (.predefined keyword)
  | known {name : String} {args : List TypeRef} {s : Symbol}
      (hmeans : model.resolve? scope name args.length = some s)
      (hkind : s.kind = .plainClass ∨ s.kind = .record ∨ s.kind = .interface) :
      model.RefersTo scope (.named name args)
  /-- A name that means nothing is taken for a reference, unless it is well known as a value. -/
  | unknown {name : String} {args : List TypeRef}
      (hmeans : model.resolve? scope name args.length = none)
      (hvalue : args ≠ [] ∨
        ¬∃ simple ∈ wellKnownValueTypes, name = simple ∨ name = "System." ++ simple) :
      model.RefersTo scope (.named name args)
  | array {element : TypeRef} {rank : Nat} : model.RefersTo scope (.array element rank)

theorem Model.isReference_iff {model : Model} {scope : Scope} {t : TypeRef} :
    model.isReference scope t = true ↔ model.RefersTo scope t := by
  cases t with
  | predefined keyword =>
    rw [isReference, TypeRef.isPredefinedReference, List.contains_iff_mem]
    refine ⟨.keyword, fun h => ?_⟩
    cases h with
    | keyword hkeyword => exact hkeyword
  | named name args =>
    rw [isReference]
    cases hmeans : model.resolve? scope name args.length with
    | some s =>
      change s.kind.isReference = true ↔ _
      rw [TypeKind.isReference_iff]
      refine ⟨.known hmeans, fun h => ?_⟩
      cases h with
      | known hmeans' hkind =>
        cases hmeans.symm.trans hmeans'
        exact hkind
      | unknown hmeans' _ => cases hmeans.symm.trans hmeans'
    | none =>
      have hvalue : (!(args.isEmpty && wellKnownValueTypes.contains (withoutSystem name))) = true ↔
          (args ≠ [] ∨
            ¬∃ simple ∈ wellKnownValueTypes, name = simple ∨ name = "System." ++ simple) := by
        rw [← withoutSystem_mem_iff, Bool.not_eq_true', Bool.and_eq_false_iff]
        simp
      refine hvalue.trans ⟨.unknown hmeans, fun h => ?_⟩
      cases h with
      | known hmeans' _ => cases hmeans.symm.trans hmeans'
      | unknown _ hvalue => exact hvalue
  | array element rank => exact ⟨fun _ => .array, fun _ => rfl⟩
  | tuple | nullable | pointer | functionPointer =>
    constructor
    · intro h
      cases h
    · intro h
      cases h

namespace ConcreteType

open Code

/-- A type becomes nullable: it is not so yet, and the flag for its sort is on. The flag for
references counts in a nullable context only. -/
def BecomesNullable (model : Model) (interface : Symbol) (arguments : ConcreteArguments)
    (options : Options) (type : TypeRef) : Prop :=
  type.isNullable = false ∧
    (model.isReference interface.scope type = true ∧ arguments.nullableReferences = true ∧
        options.nullableContext = true ∨
      model.isReference interface.scope type = false ∧ arguments.nullableValues = true)

/-- A generated property is the one for a member of the interface. -/
def IsMirror (model : Model) (interface : Symbol) (arguments : ConcreteArguments)
    (options : Options) (member : Member) (property : GeneratedProperty) : Prop :=
  ∃ typeName hasSetter type, member = .property property.name typeName hasSetter ∧
    TypeRef.parse typeName = .ok type ∧
      (BecomesNullable model interface arguments options type ∧ property.type = .nullable type ∨
        ¬BecomesNullable model interface arguments options type ∧ property.type = type)

/-- A constructor takes a value for each property and assigns it to the property, in order. -/
structure Assigns (properties : List GeneratedProperty) (parameters : List Parameter)
    (body : List Statement) : Prop where
  types : parameters.map (·.type) = properties.map (·.type)
  body : body = assignments (properties.map (·.name)) (parameters.map (·.name))

/-- A file mirrors an interface as the arguments of a concrete type say. -/
structure Mirrors (model : Model) (interface : Symbol) (arguments : ConcreteArguments)
    (options : Options) (file : SourceFile) : Prop where
  properties : List.Forall₂ (IsMirror model interface arguments options) interface.properties
    file.generatedProperties
  constructors :
    if arguments.initializingConstructor = true ∧ file.generatedProperties ≠ [] then
      ∃ parameters body, file.constructors = [(parameters, body)] ∧
        Assigns file.generatedProperties parameters body
    else file.constructors = []
  getOnly : (file.generatedProperties.map (·.name)).Nodup →
    ∀ property ∈ file.generatedProperties, property.accessors.isGetOnly = true →
      ∃ parameters body, file.constructors = [(parameters, body)] ∧
        (body.filterMap Statement.target?).count property.name = 1

variable {model : Model} {interface : Symbol} {arguments : ConcreteArguments} {options : Options}
  {properties : List InterfaceProperty} {t : ConcreteType}

/-! ## Reading the interface -/

theorem applyNullability_cases (model : Model) (interface : Symbol)
    (arguments : ConcreteArguments) (options : Options) (type : TypeRef) :
    let read := applyNullability type (model.isReference interface.scope type) arguments
      options.nullableContext
    BecomesNullable model interface arguments options type ∧ read = .nullable type ∨
      ¬BecomesNullable model interface arguments options type ∧ read = type := by
  have hwanted : ((if model.isReference interface.scope type then
        arguments.nullableReferences && options.nullableContext
      else arguments.nullableValues) = true) ↔
        (model.isReference interface.scope type = true ∧ arguments.nullableReferences = true ∧
          options.nullableContext = true ∨
        model.isReference interface.scope type = false ∧ arguments.nullableValues = true) := by
    cases model.isReference interface.scope type <;> simp
  rw [BecomesNullable, ← hwanted, applyNullability, TypeRef.orNull]
  generalize ite (model.isReference interface.scope type = true) _ _ = wanted
  cases type.isNullable with
  | true => exact .inr (by simp)
  | false =>
    cases wanted with
    | true => exact .inl ⟨⟨rfl, rfl⟩, rfl⟩
    | false => exact .inr ⟨by simp, rfl⟩

/-- What is read of a member is read of a property. -/
theorem forall₂_readMember?_filterMap (interface : Symbol) (model : Model)
    (arguments : ConcreteArguments) (options : Options) (members : List Member) :
    List.Forall₂
      (fun member result => readMember? interface model arguments options member = some result)
      (members.filter Member.isProperty)
      (members.filterMap (readMember? interface model arguments options)) := by
  induction members with
  | nil => exact .nil
  | cons member members ih =>
    cases member with
    | property name typeName hasSetter => exact .cons rfl ih
    | field | method | event => exact ih

/-- What is taken over, one property for each property of the interface. -/
theorem forall₂_readMember?_of_readProperties
    (h : readProperties interface model arguments options = .ok properties) :
    List.Forall₂
      (fun member p => readMember? interface model arguments options member = some (.ok p))
      interface.properties properties := by
  have hread := forall₂_readMember?_filterMap interface model arguments options interface.members
  rw [eq_map_ok_of_mapM_id h, List.forall₂_map_right_iff] at hread
  exact hread

theorem findSome?_unreadable?_filter (members : List Member) :
    (members.filter Member.isProperty).findSome? Member.unreadable? =
      members.findSome? Member.unreadable? := by
  induction members with
  | nil => rfl
  | cons member members ih =>
    cases member with
    | property name typeName hasSetter =>
      rw [List.filter_cons_of_pos rfl, List.findSome?_cons, List.findSome?_cons, ih]
    | field | method | event => exact ih

theorem readProperties_eq_error_iff {e : GenerateError} :
    readProperties interface model arguments options = .error e ↔
      interface.properties.findSome? Member.unreadable? = some e := by
  rw [Symbol.properties, findSome?_unreadable?_filter]
  unfold readProperties
  rcases readMembers_cases interface model arguments options interface.members with
    ⟨e', hfirst, hread⟩ | ⟨hfirst, properties, hread⟩
  · simp [hfirst, hread]
  · simp [hfirst, hread]

theorem unreadable?_eq_some_iff {member : Member} {e : GenerateError} :
    member.unreadable? = some e ↔ ∃ name typeName hasSetter cause,
      member = .property name typeName hasSetter ∧ TypeRef.parse typeName = .error cause ∧
        e = .invalidType typeName cause := by
  cases member with
  | property name typeName hasSetter =>
    cases htype : TypeRef.parse typeName <;> simp [Member.unreadable?, htype, eq_comm]
  | field | method | event => simp [Member.unreadable?]

theorem exists_readProperties_eq_error_iff :
    (∃ e, readProperties interface model arguments options = .error e) ↔
      ∃ name typeName hasSetter cause, .property name typeName hasSetter ∈ interface.members ∧
        TypeRef.parse typeName = .error cause := by
  simp only [readProperties_eq_error_iff, ← Option.isSome_iff_exists, List.findSome?_isSome_iff]
  constructor
  · rintro ⟨member, hmember, hsome⟩
    obtain ⟨e, he⟩ := Option.isSome_iff_exists.mp hsome
    obtain ⟨name, typeName, hasSetter, cause, rfl, hcause, -⟩ := unreadable?_eq_some_iff.mp he
    exact ⟨name, typeName, hasSetter, cause, List.mem_of_mem_filter hmember, hcause⟩
  · rintro ⟨name, typeName, hasSetter, cause, hmember, hcause⟩
    refine ⟨_, List.mem_filter.mpr ⟨hmember, rfl⟩, ?_⟩
    exact Option.isSome_iff_exists.mpr
      ⟨_, unreadable?_eq_some_iff.mpr ⟨name, typeName, hasSetter, cause, rfl, hcause, rfl⟩⟩

/-! ## The companion -/

theorem generatedProperties_synthesize (t : ConcreteType) (options : Options) :
    (t.synthesize options).generatedProperties =
      t.properties.map fun p => ⟨p.type, p.name, .auto (t.setterKind p)⟩ := by
  have hconstructor : (if t.hasConstructor then [t.constructorItem] else []).filterMap
      Item.generatedProperty? = [] := by
    split <;> rfl
  rw [SourceFile.generatedProperties, synthesize, items, List.filterMap_append, hconstructor,
    List.nil_append, List.filterMap_map]
  exact congrFun List.filterMap_eq_map' t.properties

theorem map_name_generatedProperties (t : ConcreteType) (options : Options) :
    (t.synthesize options).generatedProperties.map (·.name) = t.propertyNames := by
  rw [generatedProperties_synthesize, List.map_map]
  rfl

theorem constructors_synthesize (t : ConcreteType) (options : Options) :
    (t.synthesize options).constructors =
      if t.hasConstructor then [(t.parameters, assignments t.propertyNames t.parameterNames)]
      else [] := by
  have hproperties : (t.properties.map t.propertyItem).filterMap Item.constructor? = [] := by
    rw [List.filterMap_map]
    exact List.filterMap_eq_nil_iff.mpr fun _ _ => rfl
  rw [SourceFile.constructors, synthesize, items, List.filterMap_append, hproperties,
    List.append_nil]
  split
  · rw [List.filterMap_cons, constructor?_constructorItem]
    rfl
  · rfl

theorem assigns_parameters (t : ConcreteType) (options : Options) :
    Assigns (t.synthesize options).generatedProperties t.parameters
      (assignments t.propertyNames t.parameterNames) := by
  refine ⟨?_, by rw [map_name_generatedProperties, map_name_parameters]⟩
  rw [generatedProperties_synthesize, List.map_map, parameters, List.map_zipWith]
  exact List.ext_getElem (by simp [length_parameterNames]) (by simp)

theorem hasConstructor_of_isGetOnly {p : InterfaceProperty}
    (h : (Accessors.auto (t.setterKind p)).isGetOnly = true) : t.hasConstructor = true := by
  unfold setterKind at h
  split at h
  · next hrule => simp_all
  · split at h <;> simp [Accessors.isGetOnly, SetterKind.print] at h

theorem isMirror_of_readMember? {member : Member} {p : InterfaceProperty}
    (h : readMember? interface model arguments options member = some (.ok p))
    (accessors : Accessors) :
    IsMirror model interface arguments options member ⟨p.type, p.name, accessors⟩ := by
  cases member with
  | property name typeName hasSetter =>
    rw [readMember?, Option.some.injEq] at h
    split at h
    · cases h
    · next type htype =>
      cases h
      exact ⟨typeName, hasSetter, type, rfl, htype,
        applyNullability_cases model interface arguments options type⟩
  | field | method | event => cases h

theorem mirrors_of_readProperties
    (h : readProperties interface model t.arguments options = .ok t.properties) :
    Mirrors model interface t.arguments options (t.synthesize options) where
  properties := by
    rw [generatedProperties_synthesize, List.forall₂_map_right_iff]
    exact (forall₂_readMember?_of_readProperties h).imp fun _ _ hread =>
      isMirror_of_readMember? hread _
  constructors := by
    have hpresent : (t.arguments.initializingConstructor = true ∧
        (t.synthesize options).generatedProperties ≠ []) ↔ t.hasConstructor = true := by
      simp [generatedProperties_synthesize, hasConstructor]
    rw [if_congr hpresent rfl rfl, constructors_synthesize]
    split
    · exact ⟨_, _, rfl, assigns_parameters t options⟩
    · rfl
  getOnly := by
    intro hnodup property hproperty hgetOnly
    rw [map_name_generatedProperties] at hnodup
    rw [generatedProperties_synthesize] at hproperty
    obtain ⟨p, hp, rfl⟩ := List.mem_map.mp hproperty
    have hconstructor := hasConstructor_of_isGetOnly hgetOnly
    have hlength : t.propertyNames.length = t.parameterNames.length := by
      rw [length_parameterNames, propertyNames, List.length_map]
    refine ⟨_, _, (constructors_synthesize t options).trans (if_pos hconstructor), ?_⟩
    rw [filterMap_target?_assignments hlength]
    exact List.count_eq_one_of_mem hnodup (List.mem_map.mpr ⟨p, hp, rfl⟩)

/-- The companion mirrors the interface whose properties the type has. An interface can be read
unless the type of a property cannot, and the first such type is the error. -/
theorem synthesize_mirrors (interface : Symbol) (model : Model) (t : ConcreteType)
    (options : Options) :
    (readProperties interface model t.arguments options = .ok t.properties →
      Mirrors model interface t.arguments options (t.synthesize options)) ∧
    ((∃ e, readProperties interface model t.arguments options = .error e) ↔
      ∃ name typeName hasSetter cause, .property name typeName hasSetter ∈ interface.members ∧
        TypeRef.parse typeName = .error cause) ∧
    ∀ e, readProperties interface model t.arguments options = .error e ↔
      interface.properties.findSome? Member.unreadable? = some e :=
  ⟨mirrors_of_readProperties, exists_readProperties_eq_error_iff,
    fun _ => readProperties_eq_error_iff⟩

/-- An interface with a reference, which cannot be set, and two values. -/
def personInterface : Symbol :=
  { namespaceName := some "Lib"
    name := "IPerson"
    kind := .interface
    members := [.property "Home" "Town" false, .method "Greet" "void" [],
      .property "Age" "int" true, .property "Rank" "int?" true]
    usings := ["Lib.Models"] }

def personModel : Model := ⟨[{ namespaceName := some "Lib.Models", name := "Town" }]⟩

/-- A type that takes it over. References become nullable and values stay as they are. -/
def person : ConcreteType :=
  { name := "Person"
    arguments :=
      { interfaceName := "Lib.IPerson", privateSetters := true, nullableReferences := true }
    properties := [
      { name := "Home", type := .nullable (.named "Town" []), readOnly := true,
        namespaces := ⟨["Lib.Models"], by decide, by decide⟩ },
      { name := "Age", type := .predefined "int" },
      { name := "Rank", type := .nullable (.predefined "int") }] }

theorem person_mirrors :
    readProperties personInterface personModel person.arguments {} = .ok person.properties ∧
      (person.synthesize {}).generatedProperties.map (fun p => (p.name, p.type)) =
        [("Home", .nullable (.named "Town" [])), ("Age", .predefined "int"),
          ("Rank", .nullable (.predefined "int"))] ∧
      ∃ parameters body, (person.synthesize {}).constructors = [(parameters, body)] ∧
        (body.filterMap Statement.target?).count "Home" = 1 := by
  have hhome : TypeRef.parse "Town" = .ok (.named "Town" []) := by with_unfolding_all rfl
  have hage : TypeRef.parse "int" = .ok (.predefined "int") := by with_unfolding_all rfl
  have hrank : TypeRef.parse "int?" = .ok (.nullable (.predefined "int")) := by
    with_unfolding_all rfl
  have hread : readProperties personInterface personModel person.arguments {} =
      .ok person.properties := by
    simp only [readProperties, personInterface, List.filterMap_cons, List.filterMap_nil,
      readMember?, hhome, hage, hrank]
    with_unfolding_all rfl
  refine ⟨hread, rfl, ?_⟩
  have hmirrors := (synthesize_mirrors personInterface personModel person {}).1 hread
  exact hmirrors.getOnly (by decide) ⟨.nullable (.named "Town" []), "Home", .auto .absent⟩
    List.mem_cons_self (by decide)

end ConcreteType

end Companion
