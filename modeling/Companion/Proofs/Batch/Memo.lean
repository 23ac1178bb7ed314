import Companion.Batch
import Companion.Proofs.Registry
import Companion.Proofs.Symbol.Ancestors

/-!
# Batches with a memo

Types of one batch have ancestors in common, so a batch may remember the chains that it has walked:
it starts with an empty memo, asks it for the ancestors of a type and of the owner of its event, and
goes on to the next type with what is remembered by then. Here is the batch with its memo, step by
step. `Remembering.generate_eq` says that its reports and its output are those of the batch that
walks each chain anew.
-/

namespace Companion

/-! ## Questions to a memo -/

/-- A computation that asks a memo. -/
abbrev Remembering := StateM ChainMemo

namespace ChainMemo

variable {memo : ChainMemo} {model : Model} {s : Symbol}

/-- The memo has nothing but chains of the model. -/
def Faithful (memo : ChainMemo) (model : Model) : Prop :=
  ∀ key chain, memo.get? key = some chain → model.AncestorsOf key chain

theorem faithful_empty (model : Model) : Faithful {} model := by
  intro key chain h
  cases h

/-- A question about a symbol of the model is answered as the model answers it, and what is
remembered of it is a chain of the model. -/
theorem Faithful.ancestors (h : memo.Faithful model) (hs : model.lookup? s.key = some s) :
    (memo.ancestors model s).1 = model.ancestors s ∧
      (memo.ancestors model s).2.Faithful model := by
  unfold ChainMemo.ancestors
  cases hfound : memo.get? s.key with
  | some chain =>
    obtain ⟨own, hown, hchain⟩ := h s.key chain hfound
    obtain rfl : s = own := Option.some.inj (hs.symm.trans hown)
    exact ⟨hchain.symm, h⟩
  | none =>
    cases hresult : model.ancestors s with
    | error e => exact ⟨rfl, h⟩
    | ok chain =>
      refine ⟨rfl, fun key other hother => ?_⟩
      rw [Registry.get?_insert] at hother
      split at hother
      · next hkey =>
        cases hother
        subst hkey
        exact ⟨s, hs, hresult⟩
      · exact h key other hother

end ChainMemo

namespace Remembering

variable {α β : Type} {model : Model}

/-- Whatever chains of the model are remembered, the computation comes to `a`, and nothing but
chains of the model is remembered then. -/
def Returns (model : Model) (program : Remembering α) (a : α) : Prop :=
  ∀ memo : ChainMemo, memo.Faithful model →
    (program.run memo).1 = a ∧ (program.run memo).2.Faithful model

theorem returns_pure (a : α) : Returns model (pure a) a := fun _ h => ⟨rfl, h⟩

theorem Returns.bind {program : Remembering α} {a : α} {next : α → Remembering β} {b : β}
    (h : Returns model program a) (hnext : Returns model (next a) b) :
    Returns model (program >>= next) b := by
  intro memo hmemo
  obtain ⟨rfl, hafter⟩ := h memo hmemo
  exact hnext _ hafter

/-- The same for computations that may fail. -/
theorem Returns.bindExcept {program : ExceptT GenerateError Remembering α}
    {result : Except GenerateError α} {next : α → ExceptT GenerateError Remembering β}
    {onward : α → Except GenerateError β} (h : Returns model program.run result)
    (hnext : ∀ a, result = .ok a → Returns model (next a).run (onward a)) :
    Returns model (program >>= next).run (result >>= onward) := by
  have hbind : (program >>= next).run = program.run >>= ExceptT.bindCont next := rfl
  rw [hbind]
  refine h.bind ?_
  cases result with
  | ok a => exact hnext a rfl
  | error e => exact returns_pure (Except.error e)

end Remembering

namespace Batch.Remembering

open Companion.Remembering (Returns returns_pure)

variable {model : Model} {options : Options}

/-- The ancestors of a symbol, asked of the memo. -/
def ancestors (model : Model) (s : Symbol) : ExceptT GenerateError Remembering (List Symbol) :=
  ExceptT.mk fun memo => memo.ancestors model s

theorem returns_ancestors {s : Symbol} (hs : model.lookup? s.key = some s) :
    Returns model (ancestors model s).run (model.ancestors s) :=
  fun _ hmemo => hmemo.ancestors hs

/-! ## Observable types -/

/-- The policy of a type. The memo is asked for the chain of the type, and then for that of the owner
of its event. -/
def policyOf (model : Model) (hook : String) (owners : List String) (t : ObservableType) :
    ExceptT GenerateError Remembering EventPolicy :=
  match model.lookup? t.key with
  | none => return .ofChain [] hook
  | some symbol => do
    let chain ← ancestors model symbol
    match chain.reverse.find? fun s => owners.contains (qualifiedNameIn s.namespaceName s.name) with
    | some owner => return .ofOwner (.ofChain (← ancestors model owner) hook)
    | none => return .ofChain chain hook

theorem returns_policyOf (hook : String) (owners : List String) (t : ObservableType) :
    Returns model (policyOf model hook owners t).run (Batch.policyOf model hook owners t) := by
  unfold policyOf Batch.policyOf
  cases hsymbol : model.lookup? t.key with
  | none => exact returns_pure _
  | some symbol =>
    refine (returns_ancestors (Model.lookup?_key_of_lookup? hsymbol)).bindExcept
      fun chain hchain => ?_
    cases howner : chain.reverse.find? fun s =>
        owners.contains (qualifiedNameIn s.namespaceName s.name) with
    | none => exact returns_pure _
    | some owner =>
      -- the owner is one of the ancestors, and these are symbols of the model
      have hmem : owner ∈ chain := List.mem_reverse.mp (List.mem_of_find?_eq_some howner)
      obtain ⟨before, after, rfl⟩ := List.append_of_mem hmem
      exact (returns_ancestors (Model.ancestors_append_eq_ok hchain).1).bindExcept
        fun farther _ => returns_pure _

/-- The companion of an observable type. -/
def observableFile (model : Model) (options : Options) (owners : List String)
    (t : ObservableType) : ExceptT GenerateError Remembering Code.SourceFile := do
  let policy ← policyOf model options.globalHookName owners t
  let fields := t.fields.map fun f =>
    { f with namespaces := model.requiredNamespaces t.scope f.type }
  liftM (ObservableType.synthesize { t with policy, fields } options)

theorem returns_observableFile (owners : List String) (t : ObservableType) :
    Returns model (observableFile model options owners t).run
      (Batch.observableFile model options owners t) :=
  (returns_policyOf options.globalHookName owners t).bindExcept fun _ _ => returns_pure _

/-- The task of an observable type. -/
def observableTask (model : Model) (options : Options) (owners : List String)
    (t : ObservableType) : Remembering Task :=
  return ⟨t.fullName, t.name, .ofExcept (← (observableFile model options owners t).run)⟩

theorem returns_observableTask (owners : List String) (t : ObservableType) :
    Returns model (observableTask model options owners t)
      ⟨t.fullName, t.name, .ofExcept (Batch.observableFile model options owners t)⟩ :=
  (returns_observableFile owners t).bind (returns_pure _)

/-! ## Concrete types -/

/-- Refuses a type whose ancestors go round in a circle. -/
def checkAncestors (model : Model) (key : TypeKey) : ExceptT GenerateError Remembering Unit :=
  match model.lookup? key with
  | some symbol => do
    let _ ← ancestors model symbol
  | none => return ()

theorem returns_checkAncestors (key : TypeKey) :
    Returns model (checkAncestors model key).run (Batch.checkAncestors model key) := by
  unfold checkAncestors Batch.checkAncestors
  cases hsymbol : model.lookup? key with
  | none => exact returns_pure _
  | some symbol =>
    have hbind : (model.ancestors symbol).map (fun _ => ()) =
        model.ancestors symbol >>= fun _ => pure () := by
      cases model.ancestors symbol <;> rfl
    simp only [hbind]
    exact (returns_ancestors (Model.lookup?_key_of_lookup? hsymbol)).bindExcept
      fun _ _ => returns_pure _

/-- The companion of a concrete type. -/
def concreteFile (model : Model) (options : Options) (t : ConcreteType) (interface : Symbol) :
    ExceptT GenerateError Remembering Code.SourceFile := do
  checkAncestors model t.key
  liftM (t.checkInterface interface)
  let properties ← liftM (ConcreteType.readProperties interface model t.arguments options)
  return ConcreteType.synthesize
    { t with
      interfaceName := interface.name
      namespaces := t.namespaces.insertAll interface.namespaceName.toList
      properties } options

theorem returns_concreteFile (t : ConcreteType) (interface : Symbol) :
    Returns model (concreteFile model options t interface).run
      (Batch.concreteFile model options t interface) := by
  refine (returns_checkAncestors t.key).bindExcept fun _ _ => ?_
  refine Returns.bindExcept (returns_pure _) fun _ _ => ?_
  exact Returns.bindExcept (returns_pure _) fun _ _ => returns_pure _

/-- The task of a concrete type. Of one whose interface is not known no ancestor is asked for. -/
def concreteTask (model : Model) (options : Options) (t : ConcreteType) : Remembering Task :=
  match model.lookupMetadata? (String.ofList (interfaceNameOf t)) with
  | some interface =>
    return ⟨t.fullName, t.name, .ofExcept (← (concreteFile model options t interface).run)⟩
  | none => return ⟨t.fullName, t.name, .passedOver⟩

theorem returns_concreteTask (t : ConcreteType) :
    Returns model (concreteTask model options t) (Batch.concreteTask model options t) := by
  unfold concreteTask Batch.concreteTask
  cases model.lookupMetadata? (String.ofList (interfaceNameOf t)) with
  | none => exact returns_pure _
  | some interface => exact (returns_concreteFile t interface).bind (returns_pure _)

/-! ## Batches -/

section

variable {τ : Type} {taskOf : τ → Remembering Task} {plainTask : τ → Task}

/-- Settles the tasks of types until one aborts the batch. The types behind that one are not even
looked at. -/
def settleEach (ending : LineEnding) (taskOf : τ → Remembering Task) (state : State) :
    List τ → Remembering State
  | [] => return state
  | t :: ts => do
    let task ← taskOf t
    let next := settle ending state task
    if next.report.aborted then return next else settleEach ending taskOf next ts

theorem returns_settleEach (htask : ∀ t, Returns model (taskOf t) (plainTask t))
    (ending : LineEnding) (state : State) (ts : List τ) :
    Returns model (settleEach ending taskOf state ts)
      (settleAll ending state (ts.map plainTask)) := by
  induction ts generalizing state with
  | nil => exact returns_pure state
  | cons t ts ih =>
    refine (htask t).bind ?_
    simp only [List.map_cons, settleAll]
    split
    · exact returns_pure _
    · exact ih _

/-- Runs a batch, with what was emitted before and with nothing remembered yet. -/
def runEach (ending : LineEnding) (output : Output) (taskOf : τ → Remembering Task) (ts : List τ) :
    Report × Output :=
  let state := ((settleEach ending taskOf { output } ts).run {}).1
  (state.report, state.output)

theorem runEach_eq (htask : ∀ t, Returns model (taskOf t) (plainTask t)) (ending : LineEnding)
    (output : Output) (ts : List τ) :
    runEach ending output taskOf ts = run ending output (ts.map plainTask) := by
  have hstate := (returns_settleEach htask ending { output } ts {}
    (ChainMemo.faithful_empty model)).1
  simp only [runEach, run, hstate]

end

/-- Generates the companions of all observable types. -/
def generateObservable (model : Model) (options : Options) (units : List SourceUnit)
    (output : Output) : Report × Output :=
  let registry := ObservableType.collect units
  runEach options.lineEnding output (observableTask model options (owners registry)) registry.values

theorem generateObservable_eq (model : Model) (options : Options) (units : List SourceUnit)
    (output : Output) :
    generateObservable model options units output =
      Batch.generateObservable model options units output :=
  runEach_eq (returns_observableTask (owners (ObservableType.collect units))) options.lineEnding
    output _

/-- Generates the companions of all concrete types. -/
def generateConcrete (model : Model) (options : Options) (units : List SourceUnit)
    (output : Output) : Report × Output :=
  let types := (ConcreteType.collect units).values
  match types.find? fun t => (interfaceNameOf t).isEmpty with
  | some t =>
    run options.lineEnding output
      [⟨t.fullName, t.name, .failed (.missingInterfaceName t.fullName)⟩]
  | none => runEach options.lineEnding output (concreteTask model options) types

theorem generateConcrete_eq (model : Model) (options : Options) (units : List SourceUnit)
    (output : Output) :
    generateConcrete model options units output =
      Batch.generateConcrete model options units output := by
  simp only [generateConcrete, Batch.generateConcrete, concreteTasks]
  cases (ConcreteType.collect units).values.find? fun t => (interfaceNameOf t).isEmpty with
  | some t => rfl
  | none => exact runEach_eq returns_concreteTask options.lineEnding output _

/-- Emits the attributes, if they are wanted, and runs the batches of a mode, each with a memo of
its own. -/
def generate (mode : Mode) (model : Model) (options : Options) (units : List SourceUnit) :
    List Report × Output :=
  let output := if options.emitAttributes then generateAttributes options {} else {}
  match mode with
  | .observable =>
    let (report, output) := generateObservable model options units output
    ([report], output)
  | .concrete =>
    let (report, output) := generateConcrete model options units output
    ([report], output)
  | .all =>
    let (first, output) := generateObservable model options units output
    let (second, output) := generateConcrete model options units output
    ([first, second], output)

/-- Whether chains are remembered or walked anew, the reports and the output are the same. -/
theorem generate_eq (mode : Mode) (model : Model) (options : Options) (units : List SourceUnit) :
    generate mode model options units = Batch.generate mode model options units := by
  cases mode <;> simp only [generate, Batch.generate, generateObservable_eq, generateConcrete_eq]

end Batch.Remembering

end Companion
