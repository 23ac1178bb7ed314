import Mathlib.Data.List.Forall2
import Companion.Proofs.Batch.Policies

/-!
# The account of a batch

What becomes of a type can be told from the declarations alone (`ObservableType.fate`,
`ConcreteType.fate`). A batch handles its types in order until it comes to one whose chain of
ancestors is cyclic, and gives an exact account of those before: a source for each type that is
generated, an entry for each that is skipped, a diagnostic for each that is rejected (`Accounts`).
-/

namespace Companion

namespace Batch

open Code (SourceFile)
open Naming (UniqueNames)

/-! ## Fates -/

/-- What is to become of a type. -/
inductive Fate where
  | generated
  | rejected (error : GenerateError)
  /-- Skipped without a diagnostic. -/
  | passedOver
  /-- The batch ends with it. -/
  | fatal (error : GenerateError)

namespace Fate

def isGenerated : Fate → Bool
  | generated => true
  | rejected _ | passedOver | fatal _ => false

def isFatal : Fate → Bool
  | fatal _ => true
  | generated | rejected _ | passedOver => false

/-- The name under which a type is listed as skipped. -/
def skippedName? (typeName : String) : Fate → Option String
  | rejected _ | passedOver => some typeName
  | generated | fatal _ => none

def diagnostic? (typeName : String) : Fate → Option Diagnostic
  | rejected error => some ⟨.malformedInput, error.message, typeName⟩
  | fatal error => some ⟨.generationFailed, error.message, typeName⟩
  | generated | passedOver => none

theorem isGenerated_of_isFatal (fate : Fate) (h : fate.isFatal = true) :
    fate.isGenerated = false := by
  cases fate with
  | fatal => rfl
  | generated | rejected | passedOver => cases h

theorem skippedName?_of_isFatal (fate : Fate) (typeName : String) (h : fate.isFatal = true) :
    fate.skippedName? typeName = none := by
  cases fate with
  | fatal => rfl
  | generated | rejected | passedOver => cases h

/-- The outcome of a task is what the fate of its type says. -/
inductive Fits (isFile : SourceFile → Prop) : Fate → Outcome → Prop where
  | generated {file : SourceFile} (h : isFile file) : Fits isFile .generated (.file file)
  | rejected {error : GenerateError} (h : error.code = .malformedInput) :
      Fits isFile (.rejected error) (.failed error)
  | passedOver : Fits isFile .passedOver .passedOver
  | fatal {error : GenerateError} (h : error.code = .generationFailed) :
      Fits isFile (.fatal error) (.failed error)

end Fate

/-- What can be said in advance about the types of a batch. -/
structure Plan (α : Type) where
  fullName : α → String
  simpleName : α → String
  fate : α → Fate
  /-- A file is the companion of a type. -/
  IsFile : α → SourceFile → Prop

namespace Plan

variable {α : Type} (plan : Plan α)

def isGenerated (a : α) : Bool := (plan.fate a).isGenerated

def isFatal (a : α) : Bool := (plan.fate a).isFatal

def skippedName? (a : α) : Option String := (plan.fate a).skippedName? (plan.fullName a)

def diagnostic? (a : α) : Option Diagnostic := (plan.fate a).diagnostic? (plan.fullName a)

/-- The types before the first fatal one. -/
def handled (types : List α) : List α := types.takeWhile fun a => !plan.isFatal a

/-- The types that get a source. -/
def generated (types : List α) : List α := (plan.handled types).filter plan.isGenerated

/-- A name and a file are those of a type. -/
def IsProduct (a : α) (product : String × SourceFile) : Prop :=
  product.1 = plan.simpleName a ∧ plan.IsFile a product.2

/-- A source holds the companion of a type. -/
def IsSource (ending : LineEnding) (a : α) (source : Source) : Prop :=
  ∃ file, plan.IsFile a file ∧ source.text = file.print ending

/-- A task does what the plan says about its type. -/
structure Foresees (a : α) (task : Task) : Prop where
  fullName : task.fullName = plan.fullName a
  simpleName : task.simpleName = plan.simpleName a
  fits : (plan.fate a).Fits (plan.IsFile a) task.outcome

variable {plan} {a : α} {task : Task}

theorem isFatal_of_mem {types : List α} (h : a ∈ (types.find? plan.isFatal).toList) :
    plan.isFatal a = true :=
  List.find?_some (Option.mem_toList.mp h)

namespace Foresees

theorem aborts_eq (h : plan.Foresees a task) : task.aborts = plan.isFatal a := by
  obtain ⟨-, -, hfits⟩ := h
  rw [Task.aborts, isFatal]
  generalize plan.fate a = fate, task.outcome = outcome at hfits ⊢
  cases hfits with
  | generated | passedOver => rfl
  | rejected hcode | fatal hcode => simp [GenerateError.skipsType, hcode, Fate.isFatal]

theorem skippedName?_eq (h : plan.Foresees a task) : task.skippedName? = plan.skippedName? a := by
  obtain ⟨hname, -, hfits⟩ := h
  rw [Task.skippedName?, skippedName?, hname]
  generalize plan.fate a = fate, task.outcome = outcome at hfits ⊢
  cases hfits with
  | generated | passedOver => rfl
  | rejected hcode | fatal hcode => simp [GenerateError.skipsType, hcode, Fate.skippedName?]

theorem diagnostic?_eq (h : plan.Foresees a task) : task.diagnostic? = plan.diagnostic? a := by
  obtain ⟨hname, -, hfits⟩ := h
  rw [Task.diagnostic?, diagnostic?, hname]
  generalize plan.fate a = fate, task.outcome = outcome at hfits ⊢
  cases hfits with
  | generated | passedOver => rfl
  | rejected hcode | fatal hcode => simp [Diagnostic.ofError, hcode, Fate.diagnostic?]

/-- A task has a file exactly if its type is generated. -/
theorem product?_eq (h : plan.Foresees a task) :
    plan.isGenerated a = false ∧ task.product? = none ∨
      plan.isGenerated a = true ∧
        ∃ product, plan.IsProduct a product ∧ task.product? = some product := by
  obtain ⟨-, hname, hfits⟩ := h
  rw [Task.product?, hname, isGenerated]
  generalize plan.fate a = fate, task.outcome = outcome at hfits ⊢
  cases hfits with
  | generated hfile => exact .inr ⟨rfl, _, ⟨rfl, hfile⟩, rfl⟩
  | rejected | passedOver | fatal => exact .inl ⟨rfl, rfl⟩

end Foresees

end Plan

/-- The exact account of a batch: what a run did, as far as it is told from outside. -/
structure Accounts {α : Type} (plan : Plan α) (ending : LineEnding) (types : List α)
    (output : Output) (result : Report × Output) : Prop where
  sources : ∃ appended, result.2.sources = output.sources ++ appended ∧
    appended.map (·.identifier) = result.1.generated ∧
    List.Forall₂ (plan.IsSource ending) (plan.generated types) appended
  generated : result.1.generated =
    UniqueNames.assignAll {} ((plan.generated types).map plan.simpleName)
  skipped : result.1.skipped = (plan.handled types).filterMap plan.skippedName?
  diagnostics : result.2.diagnostics =
    output.diagnostics ++ (plan.handled types).filterMap plan.diagnostic? ++
      (types.find? plan.isFatal).toList.filterMap plan.diagnostic?
  aborted : result.1.aborted = types.any plan.isFatal

section

variable {α : Type} {plan : Plan α} {task : α → Task} {types : List α}

theorem reached_map (h : ∀ a, plan.Foresees a (task a)) (types : List α) :
    reached (types.map task) =
      (plan.handled types ++ (types.find? plan.isFatal).toList).map task := by
  induction types with
  | nil => rfl
  | cons a types ih =>
    rw [List.map_cons, reached_cons, (h a).aborts_eq, ih, List.find?_cons]
    unfold Plan.handled
    rw [List.takeWhile_cons]
    cases plan.isFatal a <;> rfl

/-- What is read off the tasks that a batch comes to can be read off their types. -/
theorem filterMap_reached {β : Type} {f : Task → Option β} {g : α → Option β}
    (h : ∀ a, plan.Foresees a (task a))
    (hfg : ∀ a task, plan.Foresees a task → f task = g a) :
    (reached (types.map task)).filterMap f =
      (plan.handled types).filterMap g ++ (types.find? plan.isFatal).toList.filterMap g := by
  rw [reached_map h, List.filterMap_map, ← List.filterMap_append]
  exact List.filterMap_congr fun a _ => hfg a (task a) (h a)

/-- The files of tasks, one for each type that is generated. -/
theorem forall₂_product? (h : ∀ a, plan.Foresees a (task a)) (types : List α) :
    List.Forall₂ plan.IsProduct (types.filter plan.isGenerated)
      ((types.map task).filterMap Task.product?) := by
  induction types with
  | nil => exact .nil
  | cons a types ih =>
    rcases (h a).product?_eq with ⟨hgenerated, hnone⟩ | ⟨hgenerated, product, hproduct, hsome⟩
    · simpa [hgenerated, hnone] using ih
    · simpa [hgenerated, hsome] using List.Forall₂.cons hproduct ih

theorem forall₂_product?_reached (h : ∀ a, plan.Foresees a (task a)) (types : List α) :
    List.Forall₂ plan.IsProduct (plan.generated types)
      ((reached (types.map task)).filterMap Task.product?) := by
  -- the fatal type has no file
  have hfatal : (types.find? plan.isFatal).toList.filter plan.isGenerated = [] := by
    refine List.filter_eq_nil_iff.mpr fun a ha => ?_
    rw [Plan.isGenerated, (plan.fate a).isGenerated_of_isFatal (Plan.isFatal_of_mem ha)]
    exact Bool.false_ne_true
  have hproducts := forall₂_product? h (plan.handled types ++ (types.find? plan.isFatal).toList)
  rwa [List.filter_append, hfatal, List.append_nil, ← reached_map h] at hproducts

theorem map_fst_of_forall₂ {products : List (String × SourceFile)}
    (h : List.Forall₂ plan.IsProduct types products) :
    products.map Prod.fst = types.map plan.simpleName := by
  induction h with
  | nil => rfl
  | cons hproduct _ ih => rw [List.map_cons, List.map_cons, hproduct.1, ih]

/-- Sources have the identifiers that the names get, and hold the files. -/
theorem sourcesOf_of_forall₂ {products : List (String × SourceFile)} (ending : LineEnding)
    (names : UniqueNames) (h : List.Forall₂ plan.IsProduct types products) :
    (sourcesOf ending names products).map (·.identifier) =
        names.assignAll (products.map Prod.fst) ∧
      List.Forall₂ (plan.IsSource ending) types (sourcesOf ending names products) := by
  induction h generalizing names with
  | nil => exact ⟨rfl, .nil⟩
  | @cons a product types products hproduct _ ih =>
    obtain ⟨hidentifiers, hsources⟩ := ih (names.assign product.1).2
    rw [sourcesOf_cons, List.map_cons, hidentifiers]
    exact ⟨rfl, .cons ⟨product.2, hproduct.2, rfl⟩ hsources⟩

/-- A run gives an exact account of its types if every task does what the plan says. -/
theorem run_accounts (ending : LineEnding) (output : Output)
    (h : ∀ a, plan.Foresees a (task a)) :
    Accounts plan ending types output (run ending output (types.map task)) := by
  have hproducts := forall₂_product?_reached h types
  obtain ⟨hidentifiers, hsources⟩ := sourcesOf_of_forall₂ ending {} hproducts
  have hskipped : (types.find? plan.isFatal).toList.filterMap plan.skippedName? = [] := by
    refine List.filterMap_eq_nil_iff.mpr fun a ha => ?_
    exact (plan.fate a).skippedName?_of_isFatal _ (Plan.isFatal_of_mem ha)
  rw [run_eq]
  refine ⟨⟨_, rfl, hidentifiers, hsources⟩, ?_, ?_, ?_, ?_⟩
  · simp only [map_fst_of_forall₂ hproducts]
  · simp only [filterMap_reached h fun _ _ => Plan.Foresees.skippedName?_eq, hskipped,
      List.append_nil]
  · simp only [filterMap_reached h fun _ _ => Plan.Foresees.diagnostic?_eq, List.append_assoc]
  · simp only [List.any_map]
    exact List.any_congr rfl fun a => (h a).aborts_eq

end

end Batch

/-! ## Cyclic chains -/

/-- The error of a type that is known and whose chain of ancestors is cyclic. -/
def Model.cycle? (model : Model) (key : TypeKey) : Option GenerateError :=
  (model.lookup? key).bind fun s =>
    match model.ancestors s with
    | .ok _ => none
    | .error e => some e

theorem Model.cycle?_eq_some {model : Model} {key : TypeKey} {e : GenerateError}
    (h : model.cycle? key = some e) :
    ∃ s, model.lookup? key = some s ∧ model.ancestors s = .error e := by
  obtain ⟨s, hs, h⟩ := Option.bind_eq_some_iff.mp h
  cases hchain : model.ancestors s with
  | ok => simp [hchain] at h
  | error e' =>
    simp only [hchain, Option.some.injEq] at h
    exact ⟨s, hs, h ▸ hchain⟩

theorem Model.code_of_cycle? {model : Model} {key : TypeKey} {e : GenerateError}
    (h : model.cycle? key = some e) : e.code = .generationFailed := by
  obtain ⟨s, -, hchain⟩ := Model.cycle?_eq_some h
  rw [Model.ancestorsFrom_eq_error hchain]
  rfl

/-! ## Observable types -/

/-- What is to become of an observable type. -/
def ObservableType.fate (model : Model) (t : ObservableType) : Batch.Fate :=
  match model.cycle? t.key with
  | some e => .fatal e
  | none =>
    match t.validate with
    | .error e => .rejected e
    | .ok () => .generated

theorem ObservableType.code_of_validateFields {t : ObservableType} {seen : List String}
    {fields : List DecoratedField} {e : GenerateError}
    (h : t.validateFields seen fields = .error e) : e.code = .malformedInput := by
  induction fields generalizing seen with
  | nil => cases h
  | cons field fields ih =>
    rw [validateFields] at h
    split at h
    · cases h
      rfl
    · split at h
      · cases h
        rfl
      · exact ih h

/-! ## Concrete types -/

/-- The error of a property whose type cannot be read. -/
def Member.unreadable? : Member → Option GenerateError
  | .property _ typeName _ =>
    match TypeRef.parse typeName with
    | .ok _ => none
    | .error e => some (.invalidType typeName e)
  | _ => none

theorem Member.code_of_unreadable? {member : Member} {e : GenerateError}
    (h : member.unreadable? = some e) : e.code = .malformedInput := by
  cases member with
  | property name typeName hasSetter =>
    rw [unreadable?] at h
    split at h
    · cases h
    · cases h
      rfl
  | field | method | event => cases h

/-- Reading the properties fails at the first type that cannot be read, and only there. -/
theorem ConcreteType.readMembers_cases (interface : Symbol) (model : Model)
    (arguments : ConcreteArguments) (options : Options) (members : List Member) :
    (∃ e, members.findSome? Member.unreadable? = some e ∧
      (members.filterMap (readMember? interface model arguments options)).mapM id = .error e) ∨
    (members.findSome? Member.unreadable? = none ∧ ∃ properties,
      (members.filterMap (readMember? interface model arguments options)).mapM id =
        .ok properties) := by
  induction members with
  | nil => exact .inr ⟨rfl, [], rfl⟩
  | cons member members ih =>
    cases member with
    | property name typeName hasSetter =>
      cases htype : TypeRef.parse typeName with
      | error e =>
        refine .inl ⟨.invalidType typeName e, ?_, ?_⟩
        · simp [Member.unreadable?, htype]
        · simp only [List.filterMap_cons, readMember?, htype, List.mapM_cons]
          rfl
      | ok type =>
        simp only [List.findSome?_cons, Member.unreadable?, htype, readMember?,
          List.filterMap_cons, List.mapM_cons, id]
        rcases ih with ⟨e, hfirst, hread⟩ | ⟨hfirst, properties, hread⟩
        · exact .inl ⟨e, hfirst, by rw [hread]; rfl⟩
        · exact .inr ⟨hfirst, _, by rw [hread]; rfl⟩
    | field | method | event => exact ih

/-- What is to become of a concrete type that names its interface. -/
def ConcreteType.fate (model : Model) (t : ConcreteType) : Batch.Fate :=
  match model.lookupMetadata? (String.ofList (Batch.interfaceNameOf t)) with
  | none => .passedOver
  | some interface =>
    match model.cycle? t.key with
    | some e => .fatal e
    | none =>
      if t.arguments.implementInterface && 0 < interface.arity then
        .rejected (.genericInterfaceBase t.fullName interface.fullName)
      else
        match interface.members.findSome? Member.unreadable? with
        | some e => .rejected e
        | none => .generated

namespace Batch

section

variable {model : Model} {options : Options} {names : List String} {hook : String}
  {t : ObservableType} {e : GenerateError}

theorem policyOf_of_cycle? (h : model.cycle? t.key = some e) :
    policyOf model hook names t = .error e := by
  obtain ⟨s, hs, hchain⟩ := Model.cycle?_eq_some h
  rw [policyOf, hs]
  exact except_bind_eq_error.mpr (.inl hchain)

theorem exists_policyOf (h : model.cycle? t.key = none) :
    ∃ policy, policyOf model hook names t = .ok policy := by
  cases hs : model.lookup? t.key with
  | none => exact ⟨.ofChain [] hook, by rw [policyOf, hs]⟩
  | some s =>
    cases hchain : model.ancestors s with
    | ok chain => exact ⟨_, policyOf_of_ancestorsOf ⟨s, hs, hchain⟩⟩
    | error e => simp [Model.cycle?, hs, hchain] at h

theorem observableFile_of_invalid (h : model.cycle? t.key = none)
    (hinvalid : t.validate = .error e) : observableFile model options names t = .error e := by
  obtain ⟨policy, hpolicy⟩ := exists_policyOf h
  refine except_bind_eq_error.mpr (.inr ⟨policy, hpolicy, ?_⟩)
  exact except_bind_eq_error.mpr (.inl (validate_prepare.trans hinvalid))

theorem fits_observableFile (model : Model) (options : Options) (names : List String)
    (t : ObservableType) :
    (t.fate model).Fits (fun file => observableFile model options names t = .ok file)
      (.ofExcept (observableFile model options names t)) := by
  rw [ObservableType.fate]
  cases hcycle : model.cycle? t.key with
  | some e =>
    have hfile : observableFile model options names t = .error e :=
      except_bind_eq_error.mpr (.inl (policyOf_of_cycle? hcycle))
    rw [hfile]
    exact .fatal (Model.code_of_cycle? hcycle)
  | none =>
    cases hvalid : t.validate with
    | error e =>
      rw [observableFile_of_invalid hcycle hvalid]
      exact .rejected (ObservableType.code_of_validateFields hvalid)
    | ok =>
      obtain ⟨policy, hpolicy⟩ := exists_policyOf hcycle
      obtain ⟨file, hfile⟩ := observableFile_of_valid hvalid hpolicy
      rw [hfile]
      exact .generated rfl

end

section

variable {model : Model} {options : Options} {t : ConcreteType} {interface : Symbol}
  {e : GenerateError}

theorem checkAncestors_eq (model : Model) (key : TypeKey) :
    checkAncestors model key =
      match model.cycle? key with
      | some e => .error e
      | none => .ok () := by
  rw [checkAncestors, Model.cycle?]
  cases hs : model.lookup? key with
  | none => rfl
  | some s => cases hchain : model.ancestors s <;> simp [hchain, Except.map]

theorem concreteFile_of_open (hcycle : model.cycle? t.key = none)
    (hopen : (t.arguments.implementInterface && decide (0 < interface.arity)) = true) :
    concreteFile model options t interface =
      .error (.genericInterfaceBase t.fullName interface.fullName) := by
  rw [concreteFile, checkAncestors_eq, hcycle, ConcreteType.checkInterface, hopen]
  rfl

theorem concreteFile_of_closed (options : Options) (hcycle : model.cycle? t.key = none)
    (hopen : (t.arguments.implementInterface && decide (0 < interface.arity)) = false) :
    concreteFile model options t interface =
      (ConcreteType.readProperties interface model t.arguments options).map fun properties =>
        (furnish interface properties t).synthesize options := by
  rw [concreteFile, checkAncestors_eq, hcycle, ConcreteType.checkInterface, hopen]
  cases ConcreteType.readProperties interface model t.arguments options <;> rfl

theorem fits_concreteFile (model : Model) (options : Options) (t : ConcreteType) :
    (t.fate model).Fits
      (fun file => ∃ interface,
        model.lookupMetadata? (String.ofList (interfaceNameOf t)) = some interface ∧
          concreteFile model options t interface = .ok file)
      (concreteTask model options t).outcome := by
  rw [ConcreteType.fate, concreteTask]
  cases hinterface : model.lookupMetadata? (String.ofList (interfaceNameOf t)) with
  | none => exact .passedOver
  | some interface =>
    cases hcycle : model.cycle? t.key with
    | some e =>
      have hfile : concreteFile model options t interface = .error e :=
        except_bind_eq_error.mpr (.inl (by rw [checkAncestors_eq, hcycle]))
      simp only [hfile]
      exact .fatal (Model.code_of_cycle? hcycle)
    | none =>
      cases hopen : t.arguments.implementInterface && decide (0 < interface.arity) with
      | true =>
        simp only [hopen, concreteFile_of_open hcycle hopen]
        exact .rejected rfl
      | false =>
        have hfile := concreteFile_of_closed options hcycle hopen
        rcases ConcreteType.readMembers_cases interface model t.arguments options
          interface.members with ⟨e, hfirst, hread⟩ | ⟨hfirst, properties, hread⟩
        · obtain ⟨member, -, hmember⟩ := List.exists_of_findSome?_eq_some hfirst
          rw [ConcreteType.readProperties, hread] at hfile
          simp only [hopen, hfirst, hfile]
          exact .rejected (Member.code_of_unreadable? hmember)
        · rw [ConcreteType.readProperties, hread] at hfile
          simp only [hopen, hfirst, hfile]
          exact .generated ⟨interface, rfl, hfile⟩

end

/-! ## Batches -/

/-- What can be said about the observable types. -/
def observablePlan (model : Model) (options : Options) (units : List SourceUnit) :
    Plan ObservableType where
  fullName := ObservableType.fullName
  simpleName := ObservableType.name
  fate := ObservableType.fate model
  IsFile t file := observableFile model options (owners (ObservableType.collect units)) t = .ok file

/-- What can be said about the concrete types, if they all name their interfaces. -/
def concretePlan (model : Model) (options : Options) : Plan ConcreteType where
  fullName := ConcreteType.fullName
  simpleName := ConcreteType.name
  fate := ConcreteType.fate model
  IsFile t file := ∃ interface,
    model.lookupMetadata? (String.ofList (interfaceNameOf t)) = some interface ∧
      concreteFile model options t interface = .ok file

/-- Batches give an exact account of their types, whatever was emitted before: those before the
first with a cyclic chain get a source, or are skipped with or without a diagnostic, and the batch
is aborted if there is such a chain. A batch of concrete types of which one does not name its
interface emits one diagnostic and nothing else. -/
theorem generate_accounts (model : Model) (options : Options) (units : List SourceUnit)
    (output : Output) :
    Accounts (observablePlan model options units) options.lineEnding
      (ObservableType.collect units).values output
      (generateObservable model options units output) ∧
    match (ConcreteType.collect units).values.find? fun t => (interfaceNameOf t).isEmpty with
    | some t => generateConcrete model options units output =
        ({ aborted := true }, { output with diagnostics := output.diagnostics ++
          [⟨.missingTypeName, (GenerateError.missingInterfaceName t.fullName).message,
            t.fullName⟩] })
    | none => Accounts (concretePlan model options) options.lineEnding
        (ConcreteType.collect units).values output
        (generateConcrete model options units output) := by
  constructor
  · exact run_accounts _ _ fun t => ⟨rfl, rfl, fits_observableFile model options _ t⟩
  · split
    · next t hblank =>
      rw [generateConcrete, concreteTasks, hblank]
      rfl
    · next hnone =>
      have hforesees (t : ConcreteType) :
          (concretePlan model options).Foresees t (concreteTask model options t) := by
        refine ⟨rfl, rfl, ?_⟩
        dsimp only [concretePlan]
        exact fits_concreteFile model options t
      simp only [generateConcrete, concreteTasks, hnone]
      exact run_accounts options.lineEnding output hforesees

end Batch

end Companion
