import Mathlib.Data.List.Forall2
import Companion.Concrete.Synthesis
import Companion.Proofs.Basic
import Companion.Proofs.Naming.Parameters

/-!
# What generated constructors do

A constructor is to leave every property with the argument for it. It assigns the properties by
their names, and in its body the names of the parameters do not stand for members. Parameters are
chosen so that they differ from each other and from their own property, but nothing keeps them apart
from the other properties: `initialises_iff` says that the constructor does what it is for exactly
if no property has the name of a parameter. Properties that start with a capital never do.
-/

namespace Companion

namespace Code

/-- The parameters and the body of a constructor. -/
def Item.constructor? : Item → Option (List Parameter × List Statement)
  | .constructor _ _ _ parameters body => some (parameters, body)
  | _ => none

def SourceFile.constructor? (file : SourceFile) : Option (List Parameter × List Statement) :=
  file.declaration.members.findSome? Item.constructor?

/-- The constructor of a file, called with arguments for an object with these members, comes to its
end, and afterwards the properties hold the arguments. -/
def SourceFile.Initialises {V : Type} [DecidableEq V] (text : String → V) (file : SourceFile)
    (properties : List String) (members : String → V) (args : List V) : Prop :=
  ∃ parameters body frame, file.constructor? = some (parameters, body) ∧
    parameters.length = args.length ∧
    runBody? text ((parameters.map (·.name)).zip args) members body = some frame ∧
    properties.map (fun name => frame.members (plainName name)) = args

/-- Assigns variables to members, each to the one at its place. -/
def assignments (targets names : List String) : List Statement :=
  targets.zipWith (fun target name => .set target (.ident name)) names

section

variable {V : Type} {text : String → V} {scope : List String} {frame : Frame V}
  {targets names : List String} {values : List V}

/-- The variables are in scope and have these values. -/
def Frame.Holds (scope : List String) (frame : Frame V) (names : List String) (values : List V) :
    Prop :=
  List.Forall₂ (fun name v => plainName name ∈ scope ∧
    frame.bindings.lookup (plainName name) = some v) names values

/-- If no target is hidden, all members but the targets keep their values, and the targets have
those of the variables, unless one is assigned twice. -/
theorem passes_assignments [DecidableEq V] (text : String → V)
    (htargets : ∀ target ∈ targets, plainName target ∉ scope)
    (hlength : targets.length = names.length) (hvalues : frame.Holds scope names values) :
    ∃ members, Passes text scope (assignments targets names) frame { frame with members } ∧
      (∀ n ∉ targets.map plainName, members n = frame.members n) ∧
      ((targets.map plainName).Nodup →
        targets.map (fun target => members (plainName target)) = values) := by
  induction targets generalizing names values frame with
  | nil =>
    obtain rfl := List.length_eq_zero_iff.mp hlength.symm
    cases hvalues
    exact ⟨frame.members, .nil, fun _ _ => rfl, fun _ => rfl⟩
  | cons target targets ih =>
    cases hvalues with
    | nil => cases hlength
    | @cons name v names values hname hvalues =>
      rw [List.forall_mem_cons] at htargets
      let stored : Frame V := { frame with
        members := fun n => if n = plainName target then v else frame.members n }
      have heval : (Expr.ident name).eval? text scope frame = some v := by
        rw [Expr.eval?, Frame.read?_of_mem hname.1, hname.2]
      have hfirst : Passes text scope [.set target (.ident name)] frame stored :=
        .set htargets.1 heval
      have hstored : stored.Holds scope names values := hvalues
      obtain ⟨members, hrest, hothers, hassigned⟩ :=
        ih htargets.2 (Nat.succ.inj hlength) hstored
      refine ⟨members, hfirst.append hrest, ?_, ?_⟩
      · intro n hn
        rw [List.map_cons, List.mem_cons, not_or] at hn
        rw [hothers n hn.2]
        exact if_neg hn.1
      · intro hnodup
        rw [List.map_cons, List.nodup_cons] at hnodup
        rw [List.map_cons, hassigned hnodup.2, hothers _ hnodup.1]
        exact congrArg (· :: values) (if_pos rfl)

theorem locals_assignments (targets names : List String) :
    (assignments targets names).flatMap Statement.locals = [] := by
  induction targets generalizing names with
  | nil => rfl
  | cons target targets ih =>
    cases names with
    | nil => rfl
    | cons name names => exact ih names

theorem runBody?_assignments [DecidableEq V] (hlength : names.length = values.length)
    (members : String → V) :
    runBody? text (names.zip values) members (assignments targets names) =
      execAll? text (names.map plainName) (assignments targets names)
        ⟨(names.map plainName).zip values, members, []⟩ := by
  have hbindings : (names.zip values).map (Prod.map plainName id) =
      (names.map plainName).zip values := List.zip_map_left.symm
  have hscope : ((names.map plainName).zip values).map Prod.fst = names.map plainName :=
    List.map_fst_zip (by simp [hlength])
  change execAll? text (((names.zip values).map (Prod.map plainName id)).map Prod.fst ++
    (assignments targets names).flatMap Statement.locals) (assignments targets names)
    ⟨(names.zip values).map (Prod.map plainName id), members, []⟩ = _
  rw [hbindings, hscope, locals_assignments, List.append_nil]

/-- Parameters with different names hold their arguments. -/
theorem holds_parameters (hnodup : (names.map plainName).Nodup)
    (hlength : names.length = values.length) (members : String → V) :
    Frame.Holds (names.map plainName) ⟨(names.map plainName).zip values, members, []⟩ names
      values := by
  have hkeys : (((names.map plainName).zip values).map Prod.fst).Nodup := by
    rwa [List.map_fst_zip (by simp [hlength])]
  refine List.forall₂_iff_zip.mpr ⟨hlength, fun {name v} hmem => ?_⟩
  have hbound : (plainName name, v) ∈ (names.map plainName).zip values := by
    rw [List.zip_map_left]
    exact List.mem_map.mpr ⟨(name, v), hmem, rfl⟩
  exact ⟨List.mem_map_of_mem (List.of_mem_zip hmem).1,
    (Registry.lookup_eq_some_iff_mem hkeys).mpr hbound⟩

end

end Code

namespace ConcreteType

open Code

variable {t : ConcreteType}

/-- The names of the properties. -/
def propertyNames (t : ConcreteType) : List String := t.properties.map (·.name)

/-- The names of the constructor's parameters. -/
def parameterNames (t : ConcreteType) : List String := Naming.parameterNames t.propertyNames

theorem length_parameterNames (t : ConcreteType) :
    t.parameterNames.length = t.properties.length := by
  rw [parameterNames, Naming.parameterNames, Naming.length_parameterNamesFrom, propertyNames,
    List.length_map]

/-- The parameters of the constructor. -/
def parameters (t : ConcreteType) : List Parameter :=
  t.properties.zipWith (fun p name => { type := p.type, name : Parameter }) t.parameterNames

theorem map_name_parameters (t : ConcreteType) : t.parameters.map (·.name) = t.parameterNames := by
  rw [parameters, List.map_zipWith]
  exact List.ext_getElem (by simp [length_parameterNames]) (by simp)

theorem constructor?_constructorItem (t : ConcreteType) :
    t.constructorItem.constructor? =
      some (t.parameters, assignments t.propertyNames t.parameterNames) := by
  rw [assignments, propertyNames, List.zipWith_map_left]
  rfl

theorem constructor?_synthesize (h : t.hasConstructor = true) (options : Options) :
    (t.synthesize options).constructor? =
      some (t.parameters, assignments t.propertyNames t.parameterNames) := by
  rw [SourceFile.constructor?, synthesize, items, if_pos h, List.singleton_append,
    List.findSome?_cons, constructor?_constructorItem]

/-- The names of the properties, as the language compares them, are different from each other and
from those of the parameters. -/
structure NamesApart (t : ConcreteType) : Prop where
  nodup : (t.propertyNames.map plainName).Nodup
  disjoint : ∀ property ∈ t.propertyNames, ∀ parameter ∈ t.parameterNames,
    plainName property ≠ plainName parameter

theorem initialises_of_namesApart (h : t.hasConstructor = true) (hnames : t.NamesApart)
    (options : Options) {V : Type} [DecidableEq V] (text : String → V) (members : String → V)
    {args : List V} (hargs : args.length = t.properties.length) :
    (t.synthesize options).Initialises text t.propertyNames members args := by
  have hlength : t.parameterNames.length = args.length := by rw [length_parameterNames, hargs]
  have htargets : ∀ target ∈ t.propertyNames,
      plainName target ∉ t.parameterNames.map plainName := by
    intro target htarget hmem
    obtain ⟨parameter, hparameter, hsame⟩ := List.mem_map.mp hmem
    exact hnames.disjoint target htarget parameter hparameter hsame.symm
  have hnodup : (t.parameterNames.map plainName).Nodup :=
    Naming.nodup_plainName_parameterNamesFrom Naming.not_mem_lowerCamel_stem hnames.nodup
  obtain ⟨final, hpasses, -, hassigned⟩ := passes_assignments text htargets
    (by rw [length_parameterNames, propertyNames, List.length_map])
    (holds_parameters hnodup hlength members)
  have hrun : runBody? text ((t.parameters.map (·.name)).zip args) members
      (assignments t.propertyNames t.parameterNames) =
        some ⟨(t.parameterNames.map plainName).zip args, final, []⟩ := by
    rw [map_name_parameters, runBody?_assignments hlength]
    exact hpasses.execAll?
  rw [← map_name_parameters, List.length_map] at hlength
  exact ⟨t.parameters, _, _, constructor?_synthesize h options, hlength, hrun,
    hassigned hnames.nodup⟩

section

variable {V : Type} [DecidableEq V] {text : String → V} {options : Options} {members : String → V}
  {args : List V}

/-- If a parameter hides a property then the property keeps the value it had, so that this value
has to be an argument. -/
theorem mem_args_of_hidden (h : t.hasConstructor = true)
    (hinit : (t.synthesize options).Initialises text t.propertyNames members args)
    {property : String} (hproperty : property ∈ t.propertyNames)
    (hhidden : plainName property ∈ t.parameterNames.map plainName) :
    members (plainName property) ∈ args := by
  obtain ⟨parameters, body, frame, hconstructor, hlength, hrun, hheld⟩ := hinit
  obtain ⟨rfl, rfl⟩ : t.parameters = parameters ∧ _ = body := by
    simpa using (constructor?_synthesize h options).symm.trans hconstructor
  rw [← List.length_map (·.name), map_name_parameters] at hlength
  rw [map_name_parameters, runBody?_assignments hlength] at hrun
  have hkept : frame.members (plainName property) = members (plainName property) :=
    execAll?_member (fun _ _ _ => hhidden) hrun
  rw [← hkept, ← hheld]
  exact List.mem_map_of_mem hproperty

theorem nodup_of_initialises
    (hinit : (t.synthesize options).Initialises text t.propertyNames members args)
    (hargs : args.Nodup) : (t.propertyNames.map plainName).Nodup := by
  obtain ⟨_, _, frame, -, -, -, hheld⟩ := hinit
  have hdistinct : ((t.propertyNames.map plainName).map frame.members).Nodup := by
    rw [List.map_map]
    exact hheld ▸ hargs
  exact hdistinct.of_map

end

theorem namesApart_of_capitals (hdistinct : t.propertyNames.Nodup)
    (hcapital : ∀ property ∈ t.propertyNames, Naming.startsWithCapital property = true) :
    t.NamesApart := by
  have hplain : ∀ property ∈ t.propertyNames, plainName property = property ∧
      ∃ c, property.toList.head? = some c ∧ c.isUpper = true := by
    intro property hproperty
    obtain ⟨c, hc, hupper⟩ := (Option.any_eq_true _ _).mp (hcapital property hproperty)
    refine ⟨Naming.plainName_of_head? ?_, c, hc, hupper⟩
    rw [hc]
    rintro ⟨⟩
    exact absurd hupper (by decide)
  refine ⟨?_, ?_⟩
  · rwa [List.map_congr_left (fun property hproperty => (hplain property hproperty).1),
      List.map_id']
  · intro property hproperty parameter hparameter hsame
    obtain ⟨hproper, c, hc, hupper⟩ := hplain property hproperty
    obtain ⟨d, hd, hlower⟩ := Naming.exists_isLower_of_mem_parameterNamesFrom hcapital hparameter
    rw [← hsame, hproper, hc, Option.some.injEq] at hd
    rw [Text.char_isUpper_iff, hd] at hupper
    rw [Text.char_isLower_iff] at hlower
    omega

/-- A constructor initialises every property, for all objects and arguments, exactly if the names of
the properties are different from each other and from the names of the parameters. This is so
whenever the properties are different and start with a capital. -/
theorem initialises_iff (h : t.hasConstructor = true) (options : Options) :
    ((∀ (V : Type) [DecidableEq V] (text : String → V) (members : String → V) (args : List V),
        args.length = t.properties.length →
          (t.synthesize options).Initialises text t.propertyNames members args) ↔
      t.NamesApart) ∧
    (t.propertyNames.Nodup →
      (∀ property ∈ t.propertyNames, Naming.startsWithCapital property = true) →
        t.NamesApart) := by
  refine ⟨⟨?_, ?_⟩, namesApart_of_capitals⟩
  · intro hall
    -- an object on which no member holds an argument yet, and different arguments
    have hinit := hall Nat (fun _ => 0) (fun _ => t.properties.length)
      (List.range t.properties.length) List.length_range
    refine ⟨nodup_of_initialises hinit List.nodup_range, ?_⟩
    intro property hproperty parameter hparameter hsame
    have hold := mem_args_of_hidden h hinit hproperty (hsame ▸ List.mem_map_of_mem hparameter)
    exact absurd (List.mem_range.mp hold) (Nat.lt_irrefl _)
  · intro hnames V _ text members args hargs
    exact initialises_of_namesApart h hnames options text members hargs

/-- An interface with a reserved word and with two names that only differ in their case. -/
def addressBook : ConcreteType :=
  { name := "Address"
    properties := [
      { name := "Class", type := .predefined "string" },
      { name := "Url", type := .predefined "string" },
      { name := "URL", type := .predefined "string" }] }

theorem addressBook_initialises :
    addressBook.hasConstructor = true ∧
      (addressBook.synthesize {}).Initialises id addressBook.propertyNames (fun _ => "")
        ["a", "b", "c"] := by
  have hconstructor : addressBook.hasConstructor = true := by decide
  obtain ⟨hiff, hcapitals⟩ := initialises_iff hconstructor {}
  have hnames := hcapitals (by decide) (by decide)
  exact ⟨hconstructor, hiff.mpr hnames String id (fun _ => "") ["a", "b", "c"] rfl⟩

/-- A property whose name in lower camel case is the name of another one. -/
def namesake : ConcreteType :=
  { name := "Person"
    interfaceName := "IPerson"
    properties := [
      { name := "Name", type := .predefined "string" },
      { name := "name", type := .predefined "string" }] }

/-- The second assignment is to the parameter of the first property. -/
theorem namesake_not_initialised :
    namesake.hasConstructor = true ∧ namesake.propertyNames.Nodup ∧
      ¬(namesake.synthesize {}).Initialises id namesake.propertyNames (fun _ => "") ["a", "b"] := by
  refine ⟨by decide, by decide, fun hinit => ?_⟩
  have hhidden : plainName "name" ∈ namesake.parameterNames.map plainName := by decide +kernel
  have hold := mem_args_of_hidden (by decide) hinit (by decide) hhidden
  simp at hold

end ConcreteType

end Companion
