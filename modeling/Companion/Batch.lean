import Companion.Code.Printer
import Companion.Concrete.Collect
import Companion.Concrete.Properties
import Companion.Concrete.Synthesis
import Companion.MarkerSource
import Companion.Naming
import Companion.Observable.Collect
import Companion.Observable.Synthesis
import Companion.Output
import Companion.TypeRef.Namespaces

/-!
# Batches

A batch goes through the types with one kind of marker. Every type has an outcome of its own, which
depends on the declarations alone; running the batch turns outcomes into sources and diagnostics,
in order, and stops at the first error that is not the fault of a single type. What has been
emitted stays emitted.
-/

namespace Companion

namespace Batch

/-- What is to happen with a type. -/
inductive Outcome where
  | file (file : Code.SourceFile)
  | failed (error : GenerateError)
  /-- Passed over without a word. -/
  | passedOver

/-- What generating a file came to. -/
def Outcome.ofExcept : Except GenerateError Code.SourceFile → Outcome
  | .ok source => file source
  | .error e => failed e

/-- A type of the batch and its outcome. -/
structure Task where
  fullName : String
  simpleName : String
  outcome : Outcome

/-- What a batch has done so far. The names are counted in each batch anew. -/
structure State where
  output : Output
  report : Report := {}
  names : Naming.UniqueNames := {}

/-- The state after a task. -/
def settle (ending : LineEnding) (state : State) (task : Task) : State :=
  match task.outcome with
  | .file file =>
    let (identifier, names) := state.names.assign task.simpleName
    { output := state.output.addSource ⟨identifier, file.print ending⟩
      report := { state.report with generated := state.report.generated ++ [identifier] }
      names }
  | .failed error =>
    { state with
      output := state.output.addDiagnostic (.ofError error task.fullName)
      report :=
        if error.skipsType then
          { state.report with skipped := state.report.skipped ++ [task.fullName] }
        else { state.report with aborted := true } }
  | .passedOver =>
    { state with
      report := { state.report with skipped := state.report.skipped ++ [task.fullName] } }

/-- Settles tasks until one aborts the batch. -/
def settleAll (ending : LineEnding) (state : State) : List Task → State
  | [] => state
  | task :: tasks =>
    let state := settle ending state task
    if state.report.aborted then state else settleAll ending state tasks

/-- Runs a batch, with what was emitted before. -/
def run (ending : LineEnding) (output : Output) (tasks : List Task) : Report × Output :=
  let state := settleAll ending { output } tasks
  (state.report, state.output)

/-! ## Observable types -/

/-- The policy of a type. The farthest ancestor that is generated in the same batch owns the event
and the hook. -/
def policyOf (model : Model) (hook : String) (owners : List String) (t : ObservableType) :
    Except GenerateError EventPolicy :=
  match model.lookup? t.key with
  | none => .ok (.ofChain [] hook)
  | some symbol => do
    let chain ← model.ancestors symbol
    match chain.reverse.find? fun s => owners.contains (qualifiedNameIn s.namespaceName s.name) with
    | some owner => return .ofOwner (.ofChain (← model.ancestors owner) hook)
    | none => return .ofChain chain hook

/-- The companion of an observable type. -/
def observableFile (model : Model) (options : Options) (owners : List String)
    (t : ObservableType) : Except GenerateError Code.SourceFile := do
  let policy ← policyOf model options.globalHookName owners t
  let fields := t.fields.map fun f =>
    { f with namespaces := model.requiredNamespaces t.scope f.type }
  ObservableType.synthesize { t with policy, fields } options

/-- The qualified names of the types that can own an event: those with valid properties. -/
def owners (registry : Registry String ObservableType) : List String :=
  (registry.entries.filter fun (_, t) => t.validate.isOk).map Prod.fst

/-- The tasks of a batch, one for each type with decorated fields, in the order of the registry. -/
def observableTasks (model : Model) (options : Options) (units : List SourceUnit) : List Task :=
  let registry := ObservableType.collect units
  registry.values.map fun t =>
    ⟨t.fullName, t.name, .ofExcept (observableFile model options (owners registry) t)⟩

/-- Generates the companions of all observable types. -/
def generateObservable (model : Model) (options : Options) (units : List SourceUnit)
    (output : Output) : Report × Output :=
  run options.lineEnding output (observableTasks model options units)

/-! ## Concrete types -/

/-- The name of the interface that a concrete type asks for. -/
def interfaceNameOf (t : ConcreteType) : List Char := Text.trim t.arguments.interfaceName.toList

/-- Refuses a type whose ancestors go round in a circle. -/
def checkAncestors (model : Model) (key : TypeKey) : Except GenerateError Unit :=
  match model.lookup? key with
  | some symbol => (model.ancestors symbol).map fun _ => ()
  | none => .ok ()

/-- The companion of a concrete type. -/
def concreteFile (model : Model) (options : Options) (t : ConcreteType) (interface : Symbol) :
    Except GenerateError Code.SourceFile := do
  checkAncestors model t.key
  t.checkInterface interface
  let properties ← ConcreteType.readProperties interface model t.arguments options
  return ConcreteType.synthesize
    { t with
      interfaceName := interface.name
      namespaces := t.namespaces.insertAll interface.namespaceName.toList
      properties } options

/-- The task of a concrete type. One whose interface is not known is passed over. -/
def concreteTask (model : Model) (options : Options) (t : ConcreteType) : Task :=
  ⟨t.fullName, t.name,
    match model.lookupMetadata? (String.ofList (interfaceNameOf t)) with
    | some interface => .ofExcept (concreteFile model options t interface)
    | none => .passedOver⟩

/-- The tasks of a batch. If a type does not name its interface, there is no other task. -/
def concreteTasks (model : Model) (options : Options) (units : List SourceUnit) : List Task :=
  let types := (ConcreteType.collect units).values
  match types.find? fun t => (interfaceNameOf t).isEmpty with
  | some t => [⟨t.fullName, t.name, .failed (.missingInterfaceName t.fullName)⟩]
  | none => types.map (concreteTask model options)

/-- Generates the companions of all concrete types. -/
def generateConcrete (model : Model) (options : Options) (units : List SourceUnit)
    (output : Output) : Report × Output :=
  run options.lineEnding output (concreteTasks model options units)

/-! ## Everything -/

/-- Emits the declarations of the marker attributes. -/
def generateAttributes (options : Options) (output : Output) : Output :=
  output.addSource ⟨MarkerSource.identifier, MarkerSource.text options.lineEnding⟩

/-- Which batches to run. -/
inductive Mode where
  | observable
  | concrete
  | all
  deriving DecidableEq, Repr

/-- Emits the attributes, if they are wanted, and runs the batches of a mode. -/
def generate (mode : Mode) (model : Model) (options : Options) (units : List SourceUnit) :
    List Report × Output :=
  let output := if options.emitAttributes then generateAttributes options {} else {}
  match mode with
  | .observable =>
    let (report, output) := generateObservable model options units output
    ([report], output)
  | .concrete =>
    let (report, output) := generateConcrete model options units output
    ([report], output)
  | .all =>
    let (first, output) := generateObservable model options units output
    let (second, output) := generateConcrete model options units output
    ([first, second], output)

end Batch

end Companion
