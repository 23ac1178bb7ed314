import Mathlib.Data.List.Forall2
import Companion.Proofs.Observable.Companion
import Companion.Proofs.Observable.Setter

/-!
# Calls and declarations of a companion

What a setter calls and what its companion declares is decided at different places from the same
flags. `calls_declared` says that the two go together: the calls in the setters are exactly the ones
that the policy asks for, every hook that is called is declared, and so is the trigger unless it is
inherited; and no hook is declared for which the policy does not ask.
-/

namespace Companion

namespace Code

/-! ## Calls -/

/-- A call as it is written: the method, if it is called by its name alone, and the arguments. -/
structure Invocation where
  method? : Option String
  arguments : List Expr

def Expr.name? : Expr → Option String
  | ident name => some name
  | _ => none

namespace Expr

mutual

/-- All calls in an expression, those in the arguments of a call before it. -/
def invocations : Expr → List Invocation
  | ident _ => []
  | string _ => []
  | null => []
  | this => []
  | equals left right => left.invocations ++ right.invocations
  | invoke target args => target.invocations ++ invocationsAll args ++ [⟨target.name?, args⟩]
  | conditionalInvoke target _ args => target.invocations ++ invocationsAll args ++ [⟨none, args⟩]
  | new _ args => invocationsAll args ++ [⟨none, args⟩]

def invocationsAll : List Expr → List Invocation
  | [] => []
  | e :: es => e.invocations ++ invocationsAll es

end

end Expr

def Statement.invocations : Statement → List Invocation
  | ifThen condition body => condition.invocations ++ body.invocations
  | leave => []
  | localVar _ value => value.invocations
  | assign target value => target.invocations ++ value.invocations
  | expr e => e.invocations

/-- The calls in statements, with the numbers of their arguments. -/
def callsIn (statements : List Statement) : List (Option String × Nat) :=
  (statements.flatMap Statement.invocations).map fun call => (call.method?, call.arguments.length)

theorem callsIn_append (first second : List Statement) :
    callsIn (first ++ second) = callsIn first ++ callsIn second := by
  simp [callsIn]

/-! ## Members -/

/-- The name and the setter of a property with a backing field. -/
def Item.setter? : Item → Option (String × List Statement)
  | .property _ _ _ name (.backed _ setter) => some (name, setter)
  | _ => none

/-- The name of a method without a body, and the types of its parameters. -/
def Item.bodyless? : Item → Option (String × List TypeRef)
  | .method _ _ _ name parameters none => some (name, parameters.map (·.type))
  | _ => none

/-- A method that can be called with a number of arguments. Parameters with a default can be left
out. -/
def Item.accepts (method : String) (arguments : Nat) : Item → Bool
  | .method _ _ _ name parameters _ =>
    name = method && arguments ≤ parameters.length &&
      (parameters.drop arguments).all (·.default.isSome)
  | _ => false

namespace SourceFile

def setters (file : SourceFile) : List (String × List Statement) :=
  file.declaration.members.filterMap Item.setter?

def bodyless (file : SourceFile) : List (String × List TypeRef) :=
  file.declaration.members.filterMap Item.bodyless?

end SourceFile

end Code

namespace ObservableType

open Code

variable {t : ObservableType} {options : Options} {file : SourceFile} {field : DecoratedField}

/-- The hook of a field with extra notification: it gets the old and the new value. -/
def hookOf (field : DecoratedField) : String × List TypeRef :=
  ("On" ++ field.arguments.name ++ "Changed", [field.type, field.type])

/-- The hooks that the policy asks for in the setter of a field. -/
def plannedHooks (t : ObservableType) (field : DecoratedField) : List (String × Nat) :=
  if field.arguments.extraNotify then
    [((hookOf field).1, 2)] ++ if t.policy.globalHook = "" then [] else [(t.policy.globalHook, 1)]
  else []

/-- The calls that the policy asks for in the setter of a field. -/
def plannedCalls (t : ObservableType) (field : DecoratedField) : List (String × Nat) :=
  (t.policy.trigger, if t.policy.generateEvent then 0 else 1) :: t.plannedHooks field

/-- The calls in the setters of a companion and the methods that it declares go together. -/
structure CallsDeclared (t : ObservableType) (file : SourceFile) : Prop where
  /-- There is one setter for each field, and it has the planned calls. -/
  setters : List.Forall₂
    (fun field setter => setter.1 = field.arguments.name ∧
      callsIn setter.2 = (t.plannedCalls field).map fun call => (some call.1, call.2))
    t.fields file.setters
  /-- Every call is one of a declared method, an inherited trigger apart. The trigger is what a
  setter calls first. -/
  accepted : ∀ setter ∈ file.setters,
    ∀ call ∈ if t.policy.generateEvent then callsIn setter.2 else (callsIn setter.2).tail,
      ∃ method, call.1 = some method ∧
        ∃ item ∈ file.declaration.members, item.accepts method call.2 = true
  bodyless : file.bodyless = (t.fields.filter (·.arguments.extraNotify)).map hookOf ++
    if t.policy.globalHook = "" then [] else [(t.policy.globalHook, [.predefined "string"])]
  /-- The hook of a field stands directly behind its property. -/
  behind : ∀ field ∈ t.fields, field.arguments.extraNotify = true →
    ∃ property hook, [property, hook] <:+: file.declaration.members ∧
      property.setter?.map Prod.fst = some field.arguments.name ∧
      hook.bodyless? = some (hookOf field)
  last : t.policy.globalHook ≠ "" →
    file.declaration.members.getLast?.bind Item.bodyless? =
      some (t.policy.globalHook, [.predefined "string"])

/-! ## Setters -/

theorem callsIn_setterHooks (t : ObservableType) (field : DecoratedField) :
    callsIn (t.setterHooks field) =
      (t.plannedHooks field).map fun call => (some call.1, call.2) := by
  unfold setterHooks plannedHooks
  split
  · split <;> rfl
  · rfl

theorem callsIn_setterBody (t : ObservableType) (field : DecoratedField) :
    callsIn (t.setterBody field) =
      (t.plannedCalls field).map fun call => (some call.1, call.2) := by
  have hguard : callsIn (setterGuard field) = [] := by
    unfold setterGuard
    split <;> rfl
  have hcapture : callsIn (setterCapture field) = [] := by
    unfold setterCapture
    split <;> rfl
  have hset : callsIn [.set field.name (.ident "value")] = [] := rfl
  have htrigger : callsIn [t.setterTrigger field] =
      [(some t.policy.trigger, if t.policy.generateEvent then 0 else 1)] := by
    unfold setterTrigger
    split <;> rfl
  rw [setterBody_eq, callsIn_append, callsIn_append, callsIn_append, callsIn_append, hguard,
    hcapture, hset, htrigger, callsIn_setterHooks, plannedCalls]
  rfl

theorem filterMap_setter?_items (t : ObservableType) (options : Options) :
    (t.items options).filterMap Item.setter? =
      t.fields.map fun field => (field.arguments.name, t.setterBody field) := by
  have hfield (field : DecoratedField) : (t.fieldItems field).filterMap Item.setter? =
      [(field.arguments.name, t.setterBody field)] := by
    unfold fieldItems
    cases field.hookName? <;> rfl
  rw [filterMap_items (fun _ _ _ _ => rfl) fun _ _ _ _ _ _ => rfl]
  simp only [hfield]
  exact List.map_eq_flatMap.symm

/-! ## Declarations -/

theorem filterMap_bodyless?_fields (t : ObservableType) (fields : List DecoratedField) :
    (fields.flatMap t.fieldItems).filterMap Item.bodyless? =
      (fields.filter (·.arguments.extraNotify)).map hookOf := by
  induction fields with
  | nil => rfl
  | cons field fields ih =>
    rw [List.flatMap_cons, List.filterMap_append, ih, List.filter_cons, fieldItems,
      DecoratedField.hookName?]
    cases field.arguments.extraNotify <;> rfl

theorem filterMap_bodyless?_items (t : ObservableType) (options : Options) :
    (t.items options).filterMap Item.bodyless? =
      (t.fields.filter (·.arguments.extraNotify)).map hookOf ++
        if t.policy.globalHook = "" then []
        else [(t.policy.globalHook, [.predefined "string"])] := by
  rw [items, List.filterMap_append, List.filterMap_append, filterMap_bodyless?_fields]
  cases t.policy.generateEvent <;> by_cases h : t.policy.globalHook = "" <;>
    simp [hasGlobalHook, h, Item.bodyless?, Item.partialMethod, eventItem, triggerItem]

/-- The property of a field with extra notification, and its hook directly behind it. -/
theorem exists_infix_items (options : Options) (hfield : field ∈ t.fields)
    (hnotify : field.arguments.extraNotify = true) :
    ∃ property hook, [property, hook] <:+: t.items options ∧
      property.setter?.map Prod.fst = some field.arguments.name ∧
      hook.bodyless? = some (hookOf field) ∧ hook.accepts (hookOf field).1 2 = true := by
  have hfields : t.fieldItems field <:+: t.fields.flatMap t.fieldItems :=
    List.infix_of_mem_flatten (List.mem_map_of_mem hfield)
  have hitems : t.fieldItems field <:+: t.items options := hfields.trans (List.infix_append ..)
  simp only [fieldItems, DecoratedField.hookName?, if_pos hnotify] at hitems
  exact ⟨_, _, hitems, rfl, rfl, by simp [Item.accepts, Item.partialMethod, hookOf]⟩

theorem getLast?_items (options : Options) (h : t.policy.globalHook ≠ "") :
    ∃ item, (t.items options).getLast? = some item ∧
      item.bodyless? = some (t.policy.globalHook, [.predefined "string"]) ∧
      item.accepts t.policy.globalHook 1 = true := by
  have hglobal : t.hasGlobalHook = true := by simpa [hasGlobalHook] using h
  rw [items, if_pos hglobal]
  exact ⟨_, List.getLast?_concat, rfl, by simp [Item.accepts, Item.partialMethod]⟩

theorem exists_accepts_trigger (options : Options) (h : t.policy.generateEvent = true) :
    ∃ item ∈ t.items options, item.accepts t.policy.trigger 0 = true := by
  refine ⟨t.triggerItem options, ?_, by simp [Item.accepts, triggerItem]⟩
  rw [items, if_pos h]
  simp

/-- Every hook that is called is declared. -/
theorem exists_accepts_hook (options : Options) (hfield : field ∈ t.fields) {call : String × Nat}
    (hcall : call ∈ t.plannedHooks field) :
    ∃ item ∈ t.items options, item.accepts call.1 call.2 = true := by
  unfold plannedHooks at hcall
  split at hcall
  · next hnotify =>
    rcases List.mem_append.mp hcall with hcall | hcall
    · obtain rfl := List.mem_singleton.mp hcall
      obtain ⟨property, hook, hinfix, -, -, haccepts⟩ := exists_infix_items options hfield hnotify
      exact ⟨hook, hinfix.subset (by simp), haccepts⟩
    · split at hcall
      · cases hcall
      · next hglobal =>
        obtain rfl := List.mem_singleton.mp hcall
        obtain ⟨item, hlast, -, haccepts⟩ := getLast?_items options hglobal
        exact ⟨item, List.mem_of_getLast? hlast, haccepts⟩
  · cases hcall

/-- What the setters of a companion call is what the policy asks for, and it is declared, unless it
is the inherited trigger. Nothing else is declared without a body. -/
theorem calls_declared (h : t.synthesize options = .ok file) : t.CallsDeclared file := by
  obtain ⟨-, rfl⟩ := synthesize_eq_ok_iff.mp h
  refine ⟨?_, ?_, filterMap_bodyless?_items t options, ?_, ?_⟩
  · rw [SourceFile.setters, filterMap_setter?_items, List.forall₂_map_right_iff,
      List.forall₂_same]
    exact fun field _ => ⟨rfl, callsIn_setterBody t field⟩
  · intro setter hsetter call hcall
    rw [SourceFile.setters, filterMap_setter?_items] at hsetter
    obtain ⟨field, hfield, rfl⟩ := List.mem_map.mp hsetter
    rw [callsIn_setterBody, plannedCalls, List.map_cons, List.tail_cons] at hcall
    -- the first call is the trigger, the others are hooks
    have hcases : t.policy.generateEvent = true ∧ call = (some t.policy.trigger, 0) ∨
        ∃ hook ∈ t.plannedHooks field, call = (some hook.1, hook.2) := by
      split at hcall
      · next hevent =>
        rcases List.mem_cons.mp hcall with hcall | hcall
        · exact .inl ⟨hevent, by simpa [hevent] using hcall⟩
        · obtain ⟨hook, hhook, rfl⟩ := List.mem_map.mp hcall
          exact .inr ⟨hook, hhook, rfl⟩
      · obtain ⟨hook, hhook, rfl⟩ := List.mem_map.mp hcall
        exact .inr ⟨hook, hhook, rfl⟩
    rcases hcases with ⟨hevent, rfl⟩ | ⟨hook, hhook, rfl⟩
    · exact ⟨_, rfl, exists_accepts_trigger options hevent⟩
    · exact ⟨_, rfl, exists_accepts_hook options hfield hhook⟩
  · intro field hfield hnotify
    obtain ⟨property, hook, hinfix, hproperty, hhook, -⟩ :=
      exists_infix_items options hfield hnotify
    exact ⟨property, hook, hinfix, hproperty, hhook⟩
  · intro hglobal
    obtain ⟨item, hlast, hitem, -⟩ := getLast?_items options hglobal
    rw [hlast, Option.bind_some, hitem]

/-- A type that inherits the method that raises the event. One of its three properties has no hook,
and the global hook is called by the other two. -/
def thermostat : ObservableType where
  name := "Thermostat"
  policy := ⟨false, "RaiseChanged", "OnAnyChange"⟩
  fields := [
    { name := "_target", type := .predefined "int", arguments := ⟨"Target", true, true⟩ },
    { name := "_label", type := .predefined "string", arguments := ⟨"Label", false, true⟩ },
    { name := "_mode", type := .named "Mode" [], arguments := ⟨"Mode", true, false⟩ }]

theorem thermostat_calls_declared : ∃ file, thermostat.synthesize {} = .ok file ∧
    thermostat.CallsDeclared file ∧
    thermostat.fields.map thermostat.plannedCalls =
      [[("RaiseChanged", 1), ("OnTargetChanged", 2), ("OnAnyChange", 1)], [("RaiseChanged", 1)],
        [("RaiseChanged", 1), ("OnModeChanged", 2), ("OnAnyChange", 1)]] := by
  have hvalid : thermostat.validate = .ok () :=
    validateFields_eq_ok_iff.mpr ⟨by decide +kernel, by decide⟩
  have hfile : thermostat.synthesize {} = .ok _ := synthesize_eq_ok_iff.mpr ⟨hvalid, rfl⟩
  exact ⟨_, hfile, calls_declared hfile, by decide⟩

end ObservableType

end Companion
