import Companion.Batch
import Companion.Proofs.Observable.Companion

/-!
# What a batch emits

A batch comes to its tasks one after the other, up to and including the first that aborts it, and
emits the files of those it comes to. `run_eq` says everything about a run in one equation: which
sources and diagnostics it appends, and what its report lists, given the outcomes of its tasks.
-/

namespace Companion.Batch

open Code (SourceFile)
open Naming (UniqueNames)

def Outcome.file? : Outcome → Option SourceFile
  | .file source => some source
  | .failed _ | .passedOver => none

/-- The batch ends here. -/
def Task.aborts (task : Task) : Bool :=
  match task.outcome with
  | .failed error => !error.skipsType
  | .file _ | .passedOver => false

/-- The tasks to which a batch comes. -/
def reached : List Task → List Task
  | [] => []
  | task :: tasks => task :: if task.aborts then [] else reached tasks

/-- The files that a batch emits. -/
def emitted (tasks : List Task) : List SourceFile := (reached tasks).filterMap (·.outcome.file?)

/-! ## Running -/

/-- The simple name and the file of a task that has one. -/
def Task.product? (task : Task) : Option (String × SourceFile) :=
  task.outcome.file?.map (task.simpleName, ·)

/-- The full name under which a task is listed as skipped. -/
def Task.skippedName? (task : Task) : Option String :=
  match task.outcome with
  | .failed error => if error.skipsType then some task.fullName else none
  | .passedOver => some task.fullName
  | .file _ => none

def Task.diagnostic? (task : Task) : Option Diagnostic :=
  match task.outcome with
  | .failed error => some (.ofError error task.fullName)
  | .file _ | .passedOver => none

/-- The sources of named files, under the identifiers that the names get. -/
def sourcesOf (ending : LineEnding) (names : UniqueNames) (products : List (String × SourceFile)) :
    List Source :=
  List.zipWith (fun identifier file => ⟨identifier, file.print ending⟩)
    (names.assignAll (products.map Prod.fst)) (products.map Prod.snd)

theorem reached_cons (task : Task) (tasks : List Task) :
    reached (task :: tasks) = task :: if task.aborts then [] else reached tasks := rfl

theorem outcome_of_aborts {task : Task} (h : task.aborts = true) :
    ∃ error, task.outcome = .failed error ∧ error.skipsType = false := by
  cases houtcome : task.outcome with
  | failed error => exact ⟨error, rfl, by simpa [Task.aborts, houtcome] using h⟩
  | file | passedOver => simp [Task.aborts, houtcome] at h

theorem settle_aborted (ending : LineEnding) (state : State) (task : Task) :
    (settle ending state task).report.aborted = (state.report.aborted || task.aborts) := by
  unfold settle Task.aborts
  split
  · next houtcome => simp [houtcome]
  · next error houtcome => cases hskips : error.skipsType <;> simp [houtcome, hskips]
  · next houtcome => simp [houtcome]

theorem settleAll_eq (ending : LineEnding) {state : State} (tasks : List Task)
    (h : state.report.aborted = false) :
    (settleAll ending state tasks).report =
        ⟨state.report.generated ++
            state.names.assignAll (((reached tasks).filterMap Task.product?).map Prod.fst),
          state.report.skipped ++ (reached tasks).filterMap Task.skippedName?,
          tasks.any Task.aborts⟩ ∧
      (settleAll ending state tasks).output =
        ⟨state.output.sources ++
            sourcesOf ending state.names ((reached tasks).filterMap Task.product?),
          state.output.diagnostics ++ (reached tasks).filterMap Task.diagnostic?⟩ := by
  induction tasks generalizing state with
  | nil => simp [settleAll, reached, UniqueNames.assignAll, sourcesOf, ← h]
  | cons task tasks ih =>
    have haborted : (settle ending state task).report.aborted = task.aborts := by
      rw [settle_aborted, h, Bool.false_or]
    rw [settleAll, haborted, reached_cons, List.any_cons]
    cases haborts : task.aborts with
    | true =>
      obtain ⟨error, houtcome, hskips⟩ := outcome_of_aborts haborts
      simp [settle, houtcome, hskips, Task.product?, Task.skippedName?, Task.diagnostic?,
        Outcome.file?, Output.addDiagnostic, UniqueNames.assignAll, sourcesOf]
    | false =>
      obtain ⟨hreport, houtput⟩ := ih (haborted.trans haborts)
      rw [if_neg Bool.false_ne_true, if_neg Bool.false_ne_true, hreport, houtput]
      cases houtcome : task.outcome with
      | file file =>
        simp [settle, houtcome, Task.product?, Task.skippedName?, Task.diagnostic?,
          Outcome.file?, sourcesOf, UniqueNames.assignAll, Output.addSource]
      | failed error =>
        have hskips : error.skipsType = true := by simpa [Task.aborts, houtcome] using haborts
        simp [settle, houtcome, hskips, Task.product?, Task.skippedName?, Task.diagnostic?,
          Outcome.file?, Output.addDiagnostic]
      | passedOver =>
        simp [settle, houtcome, Task.product?, Task.skippedName?, Task.diagnostic?, Outcome.file?]

theorem run_eq (ending : LineEnding) (output : Output) (tasks : List Task) :
    run ending output tasks =
      (⟨UniqueNames.assignAll {} (((reached tasks).filterMap Task.product?).map Prod.fst),
          (reached tasks).filterMap Task.skippedName?,
          tasks.any Task.aborts⟩,
        ⟨output.sources ++ sourcesOf ending {} ((reached tasks).filterMap Task.product?),
          output.diagnostics ++ (reached tasks).filterMap Task.diagnostic?⟩) := by
  have hstart : ({ output } : State).report.aborted = false := rfl
  obtain ⟨hreport, houtput⟩ := settleAll_eq ending tasks hstart
  exact Prod.ext hreport houtput

theorem sourcesOf_cons (ending : LineEnding) (names : UniqueNames) (product : String × SourceFile)
    (products : List (String × SourceFile)) :
    sourcesOf ending names (product :: products) =
      ⟨(names.assign product.1).1, product.2.print ending⟩ ::
        sourcesOf ending (names.assign product.1).2 products := rfl

theorem texts_sourcesOf (ending : LineEnding) (names : UniqueNames)
    (products : List (String × SourceFile)) :
    (sourcesOf ending names products).map (·.text) =
      (products.map Prod.snd).map (·.print ending) := by
  induction products generalizing names with
  | nil => rfl
  | cons product products ih => rw [sourcesOf_cons, List.map_cons, ih, List.map_cons, List.map_cons]

theorem map_snd_product? (tasks : List Task) :
    (tasks.filterMap Task.product?).map Prod.snd = tasks.filterMap (·.outcome.file?) := by
  rw [List.map_filterMap]
  refine List.filterMap_congr fun task _ => ?_
  rw [Task.product?, Option.map_map]
  exact Option.map_id'

section

variable (ending : LineEnding) (output : Output) (tasks : List Task)

theorem run_texts :
    (run ending output tasks).2.sources.map (·.text) =
      output.sources.map (·.text) ++ (emitted tasks).map (·.print ending) := by
  rw [run_eq, List.map_append, texts_sourcesOf, map_snd_product?, emitted]

theorem run_aborted : (run ending output tasks).1.aborted = tasks.any Task.aborts := by
  rw [run_eq]

end

/-! ## Tasks that a batch comes to -/

theorem reached_sublist (tasks : List Task) : (reached tasks).Sublist tasks := by
  induction tasks with
  | nil => exact .slnil
  | cons task tasks ih =>
    rw [reached]
    split
    · exact (List.nil_sublist tasks).cons_cons task
    · exact ih.cons_cons task

theorem reached_subset (tasks : List Task) : reached tasks ⊆ tasks := (reached_sublist tasks).subset

theorem reached_of_not_aborts {tasks : List Task} (h : tasks.any Task.aborts = false) :
    reached tasks = tasks := by
  induction tasks with
  | nil => rfl
  | cons task tasks ih =>
    rw [List.any_cons, Bool.or_eq_false_iff] at h
    rw [reached, h.1, if_neg Bool.false_ne_true, ih h.2]

theorem outcome_of_file? {outcome : Outcome} {file : SourceFile} (h : outcome.file? = some file) :
    outcome = .file file := by
  cases outcome with
  | file => exact congrArg Outcome.file (Option.some.inj h)
  | failed | passedOver => cases h

theorem mem_emitted_iff {tasks : List Task} {file : SourceFile} :
    file ∈ emitted tasks ↔ ∃ task ∈ reached tasks, task.outcome = .file file := by
  rw [emitted, List.mem_filterMap]
  refine exists_congr fun task => and_congr_right fun _ => ⟨outcome_of_file?, ?_⟩
  intro houtcome
  rw [houtcome]
  rfl

theorem Outcome.ofExcept_eq_file_iff {result : Except GenerateError SourceFile}
    {file : SourceFile} : Outcome.ofExcept result = .file file ↔ result = .ok file := by
  cases result <;> simp [ofExcept]

/-! ## Observable types -/

section

variable {model : Model} {options : Options} {names : List String} {t : ObservableType}
  {policy : EventPolicy} {file : SourceFile} {units : List SourceUnit}

/-- A type with everything that its companion needs. -/
def prepare (model : Model) (policy : EventPolicy) (t : ObservableType) : ObservableType :=
  { t with
    policy
    fields := t.fields.map fun f =>
      { f with namespaces := model.requiredNamespaces t.scope f.type } }

theorem validate_prepare : (prepare model policy t).validate = t.validate := by
  have hfields (seen : List String) (fields : List DecoratedField) :
      (prepare model policy t).validateFields seen (fields.map fun f =>
          { f with namespaces := model.requiredNamespaces t.scope f.type }) =
        t.validateFields seen fields := by
    induction fields generalizing seen with
    | nil => rfl
    | cons field fields ih =>
      simp only [List.map_cons, ObservableType.validateFields, ih]
      rfl
  exact hfields [] t.fields

theorem observableFile_eq_ok_iff : observableFile model options names t = .ok file ↔
    ∃ policy, policyOf model options.globalHookName names t = .ok policy ∧
      (prepare model policy t).synthesize options = .ok file :=
  except_bind_eq_ok

/-- A type that is reached has a companion if its properties are valid. -/
theorem observableFile_of_valid (hvalid : t.validate = .ok ())
    (hpolicy : policyOf model options.globalHookName names t = .ok policy) :
    ∃ file, observableFile model options names t = .ok file :=
  ⟨_, observableFile_eq_ok_iff.mpr ⟨policy, hpolicy, ObservableType.synthesize_eq_ok_iff.mpr
    ⟨validate_prepare.trans hvalid, rfl⟩⟩⟩

theorem exists_of_mem_emitted (h : file ∈ emitted (observableTasks model options units)) :
    ∃ t ∈ (ObservableType.collect units).values,
      observableFile model options (owners (ObservableType.collect units)) t = .ok file := by
  obtain ⟨task, htask, houtcome⟩ := mem_emitted_iff.mp h
  obtain ⟨t, ht, rfl⟩ := List.mem_map.mp (reached_subset _ htask)
  exact ⟨t, ht, Outcome.ofExcept_eq_file_iff.mp houtcome⟩

end

/-! ## Concrete types -/

section

variable {model : Model} {options : Options} {t : ConcreteType} {interface : Symbol}
  {file : SourceFile} {units : List SourceUnit}

/-- A type with everything that its companion needs. -/
def furnish (interface : Symbol) (properties : List InterfaceProperty) (t : ConcreteType) :
    ConcreteType :=
  { t with
    interfaceName := interface.name
    namespaces := t.namespaces.insertAll interface.namespaceName.toList
    properties }

theorem exists_of_concreteFile (h : concreteFile model options t interface = .ok file) :
    ∃ properties,
      ConcreteType.readProperties interface model t.arguments options = .ok properties ∧
        file = (furnish interface properties t).synthesize options := by
  obtain ⟨_, -, h⟩ := except_bind_eq_ok.mp h
  obtain ⟨_, -, h⟩ := except_bind_eq_ok.mp h
  obtain ⟨properties, hproperties, h⟩ := except_bind_eq_ok.mp h
  exact ⟨properties, hproperties, (Except.ok.inj h).symm⟩

theorem exists_of_mem_emitted_concrete (h : file ∈ emitted (concreteTasks model options units)) :
    ∃ t ∈ (ConcreteType.collect units).values, ∃ interface,
      model.lookupMetadata? (String.ofList (interfaceNameOf t)) = some interface ∧
        concreteFile model options t interface = .ok file := by
  obtain ⟨task, htask, houtcome⟩ := mem_emitted_iff.mp h
  have hmem := reached_subset _ htask
  unfold concreteTasks at hmem
  dsimp only at hmem
  split at hmem
  · obtain rfl := List.mem_singleton.mp hmem
    cases houtcome
  · obtain ⟨t, ht, rfl⟩ := List.mem_map.mp hmem
    unfold concreteTask at houtcome
    dsimp only at houtcome
    split at houtcome
    · next interface hinterface =>
      exact ⟨t, ht, interface, hinterface, Outcome.ofExcept_eq_file_iff.mp houtcome⟩
    · cases houtcome

end

end Companion.Batch
