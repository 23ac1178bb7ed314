import Companion.Observable.Synthesis
import Companion.Proofs.Code.Execution

/-!
# What generated setters do

A setter promises to store the new value, to raise the event and to call the hooks, or to do
nothing if it compares values and there is nothing to change. It refers to its field by name, and
in the body of a setter two names do not stand for members: `value`, and `oldValue` if the setter
keeps the old value for a hook. `keepsPromise_iff` says that the promise is kept for all objects
and values exactly if the field has neither of these names. Nothing checks the names of fields.
-/

namespace Companion.ObservableType

open Code

variable {V : Type}

/-- The hooks that are due when the setter of a field changes it: that of the property and the
global one, both only for properties with extra notification. -/
def dueHooks (text : String → V) (t : ObservableType) (field : DecoratedField) (old new : V) :
    List (Call V) :=
  if field.arguments.extraNotify then
    [⟨"On" ++ field.arguments.name ++ "Changed", [old, new]⟩] ++
      if t.policy.globalHook = "" then []
      else [⟨t.policy.globalHook, [text field.arguments.name]⟩]
  else []

/-- The trigger, which gets the name of the property unless the type itself declares it, and the
hooks. -/
def dueCalls (text : String → V) (t : ObservableType) (field : DecoratedField) (old new : V) :
    List (Call V) :=
  ⟨t.policy.trigger, if t.policy.generateEvent then [] else [text field.arguments.name]⟩ ::
    dueHooks text t field old new

/-- What the setter of a field promises for an object and a new value. -/
def KeepsPromise [DecidableEq V] (text : String → V) (t : ObservableType) (field : DecoratedField)
    (members : String → V) (new : V) : Prop :=
  ∃ frame, runBody? text [("value", new)] members (t.setterBody field) = some frame ∧
    if field.arguments.compareValues ∧ members (plainName field.name) = new then
      frame.members = members ∧ frame.calls = []
    else
      frame.members = (fun n => if n = plainName field.name then new else members n) ∧
        frame.calls = dueCalls text t field (members (plainName field.name)) new

/-- The names that do not stand for members in the setter of a field. -/
def hiddenNames (field : DecoratedField) : List String :=
  if field.arguments.extraNotify then ["value", "oldValue"] else ["value"]

/-! ## The parts of a setter -/

/-- The part that leaves if there is nothing to change. -/
def setterGuard (field : DecoratedField) : List Statement :=
  if field.arguments.compareValues then
    [.ifThen (.equals (.ident field.name) (.ident "value")) .leave]
  else []

/-- The part that keeps the old value. -/
def setterCapture (field : DecoratedField) : List Statement :=
  if field.arguments.extraNotify then [.localVar "oldValue" (.ident field.name)] else []

def setterTrigger (t : ObservableType) (field : DecoratedField) : Statement :=
  .call t.policy.trigger (if t.policy.generateEvent then [] else [.string field.arguments.name])

/-- The part that calls the hooks. -/
def setterHooks (t : ObservableType) (field : DecoratedField) : List Statement :=
  if field.arguments.extraNotify then
    [.call ("On" ++ field.arguments.name ++ "Changed") [.ident "oldValue", .ident field.name]] ++
      if t.policy.globalHook = "" then []
      else [.call t.policy.globalHook [.string field.arguments.name]]
  else []

theorem setterBody_eq (t : ObservableType) (field : DecoratedField) :
    t.setterBody field =
      setterGuard field ++ (setterCapture field ++ ([.set field.name (.ident "value")] ++
        ([t.setterTrigger field] ++ t.setterHooks field))) := by
  cases he : field.arguments.extraNotify <;>
    simp [setterBody, setterGuard, setterCapture, setterTrigger, setterHooks, hasGlobalHook,
      DecoratedField.hookName?, he]

theorem plainName_value : plainName "value" = "value" := by decide

theorem plainName_oldValue : plainName "oldValue" = "oldValue" := by decide

/-- Only the old value is declared. -/
theorem locals_setterBody (t : ObservableType) (field : DecoratedField) :
    "value" :: (t.setterBody field).flatMap Statement.locals = hiddenNames field := by
  have hguard : (setterGuard field).flatMap Statement.locals = [] := by
    unfold setterGuard
    split <;> rfl
  have hhooks : (t.setterHooks field).flatMap Statement.locals = [] := by
    unfold setterHooks
    split
    · split <;> rfl
    · rfl
  rw [setterBody_eq]
  simp only [List.flatMap_append, hguard, hhooks]
  unfold setterCapture hiddenNames
  split
  · rw [← plainName_oldValue]
    rfl
  · rfl

/-- Only the field is assigned. -/
theorem targets_setterBody (t : ObservableType) (field : DecoratedField) :
    (t.setterBody field).flatMap Statement.targets = [field.name] := by
  have hguard : (setterGuard field).flatMap Statement.targets = [] := by
    unfold setterGuard
    split <;> rfl
  have hcapture : (setterCapture field).flatMap Statement.targets = [] := by
    unfold setterCapture
    split <;> rfl
  have hhooks : (t.setterHooks field).flatMap Statement.targets = [] := by
    unfold setterHooks
    split
    · split <;> rfl
    · rfl
  rw [setterBody_eq]
  simp only [List.flatMap_append, hguard, hcapture, hhooks]
  rfl

theorem runBody?_setterBody [DecidableEq V] (text : String → V) (t : ObservableType)
    (field : DecoratedField) (members : String → V) (new : V) :
    runBody? text [("value", new)] members (t.setterBody field) =
      execAll? text (hiddenNames field) (t.setterBody field) ⟨[("value", new)], members, []⟩ := by
  rw [← locals_setterBody t field]
  simp [runBody?, plainName_value]

/-! ## Running the parts

The field is a member here: its name is not hidden. -/

section

variable {text : String → V} {t : ObservableType} {field : DecoratedField} {frame : Frame V}
  {old new : V}

theorem eval?_value (h : frame.bindings.lookup "value" = some new) :
    (Expr.ident "value").eval? text (hiddenNames field) frame = some new := by
  have hmem : plainName "value" ∈ hiddenNames field := by
    rw [plainName_value]
    unfold hiddenNames
    split <;> simp
  rw [Expr.eval?, Frame.read?_of_mem hmem, plainName_value, h]

theorem eval?_oldValue (he : field.arguments.extraNotify = true)
    (h : frame.bindings.lookup "oldValue" = some old) :
    (Expr.ident "oldValue").eval? text (hiddenNames field) frame = some old := by
  have hmem : plainName "oldValue" ∈ hiddenNames field := by
    rw [plainName_oldValue, hiddenNames, if_pos he]
    simp
  rw [Expr.eval?, Frame.read?_of_mem hmem, plainName_oldValue, h]

theorem eval?_field (hfield : plainName field.name ∉ hiddenNames field) :
    (Expr.ident field.name).eval? text (hiddenNames field) frame =
      some (frame.members (plainName field.name)) := by
  rw [Expr.eval?, Frame.read?_of_not_mem hfield]

/-- The frame after the old value has been kept, if it is kept. -/
def keepOld (field : DecoratedField) (frame : Frame V) : Frame V :=
  if field.arguments.extraNotify then
    frame.declare "oldValue" (frame.members (plainName field.name))
  else frame

theorem keepOld_bindings_value (hvalue : frame.bindings.lookup "value" = some new) :
    (keepOld field frame).bindings.lookup "value" = some new := by
  unfold keepOld
  split
  · simp [Frame.declare, plainName_oldValue, List.lookup_cons, hvalue]
  · exact hvalue

theorem keepOld_bindings_oldValue (he : field.arguments.extraNotify = true) :
    (keepOld field frame).bindings.lookup "oldValue" =
      some (frame.members (plainName field.name)) := by
  simp [keepOld, he, Frame.declare, plainName_oldValue]

@[simp]
theorem keepOld_members : (keepOld field frame).members = frame.members := by
  unfold keepOld
  split <;> rfl

@[simp]
theorem keepOld_calls : (keepOld field frame).calls = frame.calls := by
  unfold keepOld
  split <;> rfl

variable [DecidableEq V]

theorem passes_setterGuard (hfield : plainName field.name ∉ hiddenNames field)
    (hvalue : frame.bindings.lookup "value" = some new)
    (hchange : ¬(field.arguments.compareValues ∧ frame.members (plainName field.name) = new)) :
    Passes text (hiddenNames field) (setterGuard field) frame frame := by
  unfold setterGuard
  split
  · next hcompare =>
    exact .guard (eval?_field hfield) (eval?_value hvalue) fun heq => hchange ⟨hcompare, heq⟩
  · exact .nil

theorem passes_setterCapture (hfield : plainName field.name ∉ hiddenNames field) :
    Passes text (hiddenNames field) (setterCapture field) frame (keepOld field frame) := by
  unfold setterCapture keepOld
  split
  · exact .localVar (eval?_field hfield)
  · exact .nil

theorem passes_setterTrigger : Passes text (hiddenNames field) [t.setterTrigger field] frame
    (frame.log ⟨t.policy.trigger,
      if t.policy.generateEvent then [] else [text field.arguments.name]⟩) := by
  apply Passes.call
  split <;> rfl

theorem passes_setterHooks (hfield : plainName field.name ∉ hiddenNames field)
    (hold : field.arguments.extraNotify = true → frame.bindings.lookup "oldValue" = some old) :
    Passes text (hiddenNames field) (t.setterHooks field) frame
      { frame with
        calls := frame.calls ++
          dueHooks text t field old (frame.members (plainName field.name)) } := by
  unfold setterHooks dueHooks
  split
  · next he =>
    have hargs : [Expr.ident "oldValue", .ident field.name].mapM
        (Expr.eval? text (hiddenNames field) frame) =
          some [old, frame.members (plainName field.name)] := by
      simp only [List.mapM_cons, eval?_oldValue he (hold he), eval?_field hfield]
      rfl
    have hhook : Passes text (hiddenNames field)
        [.call ("On" ++ field.arguments.name ++ "Changed") [.ident "oldValue", .ident field.name]]
        frame _ := .call hargs
    split
    · simpa [Frame.log] using hhook
    · have hglobal (frame : Frame V) : Passes text (hiddenNames field)
          [.call t.policy.globalHook [.string field.arguments.name]] frame
          (frame.log ⟨t.policy.globalHook, [text field.arguments.name]⟩) := .call rfl
      simpa [Frame.log] using hhook.append (hglobal _)
  · simpa using Passes.nil

/-- A setter that has something to change. -/
theorem execAll?_setterBody_of_change (hfield : plainName field.name ∉ hiddenNames field)
    (hvalue : frame.bindings.lookup "value" = some new)
    (hchange : ¬(field.arguments.compareValues ∧ frame.members (plainName field.name) = new)) :
    ∃ frame', execAll? text (hiddenNames field) (t.setterBody field) frame = some frame' ∧
      frame'.members = (fun n => if n = plainName field.name then new else frame.members n) ∧
      frame'.calls = frame.calls ++
        dueCalls text t field (frame.members (plainName field.name)) new := by
  let stored : Frame V := { keepOld field frame with
    members := fun n => if n = plainName field.name then new else (keepOld field frame).members n }
  have hguard : Passes text (hiddenNames field) (setterGuard field) frame frame :=
    passes_setterGuard hfield hvalue hchange
  have hcapture : Passes text (hiddenNames field) (setterCapture field) frame
      (keepOld field frame) :=
    passes_setterCapture hfield
  have hset : Passes text (hiddenNames field) [.set field.name (.ident "value")]
      (keepOld field frame) stored :=
    .set hfield (eval?_value (keepOld_bindings_value hvalue))
  have htrigger : Passes text (hiddenNames field) [t.setterTrigger field] stored _ :=
    passes_setterTrigger
  have hold : field.arguments.extraNotify = true →
      stored.bindings.lookup "oldValue" = some (frame.members (plainName field.name)) :=
    keepOld_bindings_oldValue
  have hcalls := htrigger.append (passes_setterHooks (t := t) hfield hold)
  have hall := hguard.append (hcapture.append (hset.append hcalls))
  rw [← setterBody_eq] at hall
  refine ⟨_, hall.execAll?, ?_, ?_⟩
  · simp [Frame.log, stored]
  · simp [Frame.log, stored, dueCalls]

/-- A setter that compares values and has nothing to change. -/
theorem execAll?_setterBody_of_same (hfield : plainName field.name ∉ hiddenNames field)
    (hvalue : frame.bindings.lookup "value" = some new)
    (hcompare : field.arguments.compareValues = true)
    (hsame : frame.members (plainName field.name) = new) :
    execAll? text (hiddenNames field) (t.setterBody field) frame = some frame := by
  have hguard : setterGuard field =
      [.ifThen (.equals (.ident field.name) (.ident "value")) .leave] := if_pos hcompare
  have hleft : (Expr.ident field.name).eval? text (hiddenNames field) frame = some new := by
    rw [eval?_field hfield, hsame]
  rw [setterBody_eq, hguard, List.singleton_append]
  exact execAll?_guard_leave hleft (eval?_value hvalue)

end

/-! ## The promise -/

theorem keepsPromise_of_not_mem [DecidableEq V] {field : DecoratedField}
    (hfield : plainName field.name ∉ hiddenNames field) (text : String → V) (t : ObservableType)
    (members : String → V) (new : V) : KeepsPromise text t field members new := by
  have hvalue : ([("value", new)] : List (String × V)).lookup "value" = some new := by simp
  rw [KeepsPromise, runBody?_setterBody]
  split
  · next hsame =>
    exact ⟨_, execAll?_setterBody_of_same hfield hvalue hsame.1 hsame.2, rfl, rfl⟩
  · next hchange => exact execAll?_setterBody_of_change hfield hvalue hchange

/-- If the name of the field is hidden then the setter cannot change any field. -/
theorem not_keepsPromise_of_mem {field : DecoratedField}
    (hfield : plainName field.name ∈ hiddenNames field) (t : ObservableType) :
    ¬KeepsPromise (fun _ => false) t field (fun _ => false) true := by
  rintro ⟨frame, hrun, hkeeps⟩
  rw [runBody?_setterBody] at hrun
  have htargets : ∀ name ∈ (t.setterBody field).flatMap Statement.targets,
      plainName name ∈ hiddenNames field := by
    simpa [targets_setterBody] using hfield
  have hmembers := execAll?_members htargets hrun
  rw [if_neg (by simp), hmembers] at hkeeps
  have hstored := congrFun hkeeps.1 (plainName field.name)
  simp at hstored

theorem not_mem_hiddenNames_iff (field : DecoratedField) :
    plainName field.name ∉ hiddenNames field ↔ plainName field.name ≠ "value" ∧
      (field.arguments.extraNotify = true → plainName field.name ≠ "oldValue") := by
  unfold hiddenNames
  split <;> simp_all

/-- Setters keep their promise, for all objects and new values, exactly if their field is not
called `value` and, where the old value is kept for a hook, not `oldValue`. -/
theorem keepsPromise_iff (t : ObservableType) (field : DecoratedField) :
    (∀ (V : Type) [DecidableEq V] (text : String → V) (members : String → V) (new : V),
      KeepsPromise text t field members new) ↔
    plainName field.name ≠ "value" ∧
      (field.arguments.extraNotify = true → plainName field.name ≠ "oldValue") := by
  rw [← not_mem_hiddenNames_iff]
  constructor
  · intro hkeeps hfield
    exact not_keepsPromise_of_mem hfield t (hkeeps Bool _ _ _)
  · intro hfield V _ text members new
    exact keepsPromise_of_not_mem hfield text t members new

/-- The property `Value` of a field `value` is valid, but its setter assigns the new value to
itself. -/
theorem not_keepsPromise_value :
    let field : DecoratedField :=
      { name := "value", type := .predefined "int", arguments := ⟨"Value", false, false⟩ }
    let t : ObservableType := { name := "Box", fields := [field] }
    t.validate = .ok () ∧ field ∈ t.fields ∧
      ¬KeepsPromise (fun _ => false) t field (fun _ => false) true := by
  intro field t
  refine ⟨?_, List.mem_singleton.mpr rfl, not_keepsPromise_of_mem ?_ t⟩
  · have hname : Naming.isIdentifier "Value" = true := by decide +kernel
    simp [validate, validateFields, t, field, hname]
  · rw [plainName_value]
    exact List.mem_singleton.mpr rfl

end Companion.ObservableType
