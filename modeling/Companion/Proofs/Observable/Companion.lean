import Companion.Observable.Synthesis
import Companion.Proofs.Basic
import Companion.Proofs.Symbol.Resolution

/-!
# What a companion declares

The companion of an observable type can be read: its properties, whether it has the event, a method
that raises it and the global hook, and which method its setters call. The properties are those of
the fields, and the rest is as the policy of the type says.
-/

namespace Companion

/-- What a property shows of itself. -/
structure PropertyView where
  docs : List String
  type : TypeRef
  name : String
  /-- The field that holds its value. -/
  backing? : Option String

/-- What the property of a field is to show. -/
def DecoratedField.view (field : DecoratedField) : PropertyView :=
  ⟨field.comments, field.type, field.arguments.name, some field.name⟩

namespace Code

/-- What a property shows, for a member that is one. -/
def Item.property? : Item → Option PropertyView
  | .property docs _ type name (.backed field _) => some ⟨docs, type, name, some field⟩
  | .property docs _ type name (.auto _) => some ⟨docs, type, name, none⟩
  | .event .. | .method .. | .constructor .. => none

/-- An event with a name. -/
def Item.isEvent (eventName : String) : Item → Bool
  | .event _ _ _ name => name = eventName
  | _ => false

/-- A method with a body. In the companion of an observable type this can only be the one that
raises the event. -/
def Item.isImplemented : Item → Bool
  | .method _ _ _ _ _ (some _) => true
  | _ => false

/-- A hook with one parameter. Hooks of properties have two, so it is the global one. -/
def Item.isGlobalHook : Item → Bool
  | .method _ _ _ _ [_] none => true
  | _ => false

/-- The method that a statement calls by its name. -/
def Statement.callee? : Statement → Option String
  | .expr (.invoke (.ident name) _) => some name
  | _ => none

/-- The method that a setter calls first, for a property with such a setter. -/
def Item.setterCall? : Item → Option (Option String)
  | .property _ _ _ _ (.backed _ setter) => some (setter.findSome? Statement.callee?)
  | _ => none

namespace SourceFile

/-- The type that a file completes. -/
def key (file : SourceFile) : TypeKey :=
  (fullNameIn file.namespaceName file.declaration.name, file.declaration.typeParameters.length)

def qualifiedName (file : SourceFile) : String :=
  qualifiedNameIn file.namespaceName file.declaration.name

/-- The properties of a file, in order. -/
def properties (file : SourceFile) : List PropertyView :=
  file.declaration.members.filterMap Item.property?

def declaresEvent (file : SourceFile) : Bool :=
  file.declaration.members.any (Item.isEvent changeEvent)

def declaresTrigger (file : SourceFile) : Bool := file.declaration.members.any Item.isImplemented

def declaresGlobalHook (file : SourceFile) : Bool := file.declaration.members.any Item.isGlobalHook

/-- What the setters call first, in the order of the properties. -/
def setterCalls (file : SourceFile) : List (Option String) :=
  file.declaration.members.filterMap Item.setterCall?

/-- There are properties, and the setter of each first calls the method. -/
def SettersCall (file : SourceFile) (trigger : String) : Prop :=
  file.properties ≠ [] ∧ file.setterCalls = file.properties.map fun _ => some trigger

end SourceFile

end Code

namespace ObservableType

open Code

variable {t : ObservableType} {options : Options} {file : SourceFile}

/-! ## Items -/

/-- What the properties and their hooks do not have, only the event, the trigger and the global hook
can have. -/
theorem any_items {p : Item → Bool} (hfields : ∀ field, (t.fieldItems field).any p = false) :
    (t.items options).any p =
      (t.policy.generateEvent && (p (eventItem options) || p (t.triggerItem options)) ||
        t.hasGlobalHook && p (.partialMethod [globalHookDoc] t.policy.globalHook
          [⟨.predefined "string", "propertyName", [], none⟩])) := by
  have hnone : (t.fields.flatMap t.fieldItems).any p = false := by
    simp only [List.any_flatMap, hfields]
    simp
  rw [items, List.any_append, List.any_append, hnone, Bool.or_false]
  cases t.policy.generateEvent <;> cases t.hasGlobalHook <;> simp

theorem findSome?_callee?_setterBody (t : ObservableType) (field : DecoratedField) :
    (t.setterBody field).findSome? Statement.callee? = some t.policy.trigger := by
  unfold setterBody
  cases field.arguments.compareValues <;> cases field.hookName? <;> rfl

theorem filterMap_setterCall?_fieldItems (t : ObservableType) (field : DecoratedField) :
    (t.fieldItems field).filterMap Item.setterCall? = [some t.policy.trigger] := by
  unfold fieldItems
  cases field.hookName? <;>
    simp [Item.setterCall?, findSome?_callee?_setterBody, Item.partialMethod]

/-- What neither the event nor a method has, only the properties can have. -/
theorem filterMap_items {β : Type} {f : Item → Option β}
    (hevent : ∀ docs modifiers type name, f (.event docs modifiers type name) = none)
    (hmethod : ∀ docs modifiers type name parameters body,
      f (.method docs modifiers type name parameters body) = none) :
    (t.items options).filterMap f = t.fields.flatMap fun field =>
      (t.fieldItems field).filterMap f := by
  have hfirst : (if t.policy.generateEvent then [eventItem options, t.triggerItem options]
      else []).filterMap f = [] := by
    split <;> simp [eventItem, triggerItem, hevent, hmethod]
  have hlast : (if t.hasGlobalHook then [Item.partialMethod [globalHookDoc] t.policy.globalHook
      [⟨.predefined "string", "propertyName", [], none⟩]] else []).filterMap f = [] := by
    split <;> simp [Item.partialMethod, hmethod]
  rw [items, List.filterMap_append, List.filterMap_append, hfirst, hlast, List.filterMap_flatMap,
    List.nil_append, List.append_nil]

theorem filterMap_setterCall?_items (t : ObservableType) (options : Options) :
    (t.items options).filterMap Item.setterCall? = t.fields.map fun _ => some t.policy.trigger := by
  rw [filterMap_items (fun _ _ _ _ => rfl) fun _ _ _ _ _ _ => rfl]
  simp only [filterMap_setterCall?_fieldItems]
  exact List.map_eq_flatMap.symm

theorem filterMap_property?_items (t : ObservableType) (options : Options) :
    (t.items options).filterMap Item.property? = t.fields.map DecoratedField.view := by
  have hfield (field : DecoratedField) :
      (t.fieldItems field).filterMap Item.property? = [field.view] := by
    unfold fieldItems
    cases field.hookName? <;> rfl
  rw [filterMap_items (fun _ _ _ _ => rfl) fun _ _ _ _ _ _ => rfl]
  simp only [hfield]
  exact List.map_eq_flatMap.symm

/-! ## Files -/

/-- The names of properties that are accepted, after those that were met before. -/
theorem validateFields_eq_ok_iff {seen : List String} {fields : List DecoratedField} :
    t.validateFields seen fields = .ok () ↔
      (∀ field ∈ fields, Naming.isIdentifier field.arguments.name = true ∧
        field.arguments.name ≠ t.name ∧ field.arguments.name ≠ field.name ∧
          field.arguments.name ∉ seen) ∧
      (fields.map (·.arguments.name)).Nodup := by
  induction fields generalizing seen with
  | nil => simp [validateFields]
  | cons field fields ih =>
    rw [validateFields, List.forall_mem_cons, List.map_cons, List.nodup_cons]
    split
    · next hinvalid =>
      simp only [reduceCtorEq, false_iff]
      rintro ⟨⟨⟨hname, htype, -⟩, -⟩, -⟩
      simp [hname, htype] at hinvalid
    · next hvalid =>
      split
      · next hused =>
        simp only [reduceCtorEq, false_iff]
        rintro ⟨⟨⟨-, -, hfield, hseen⟩, -⟩, -⟩
        simp [hfield, hseen] at hused
      · next hfree =>
        simp only [Bool.or_eq_true, Bool.not_eq_true', decide_eq_true_eq, not_or,
          Bool.not_eq_false] at hvalid
        simp only [Bool.or_eq_true, decide_eq_true_eq, List.contains_eq_mem, not_or] at hfree
        simp only [ih, List.mem_cons, not_or, List.mem_map, not_exists, not_and]
        constructor
        · rintro ⟨hrest, hnodup⟩
          refine ⟨⟨⟨hvalid.1, hvalid.2, hfree.1, hfree.2⟩, fun other hother => ?_⟩, ?_, hnodup⟩
          · obtain ⟨hname, htype, hfield, -, hseen⟩ := hrest other hother
            exact ⟨hname, htype, hfield, hseen⟩
          · exact fun other hother => (hrest other hother).2.2.2.1
        · rintro ⟨⟨-, hrest⟩, hnew, hnodup⟩
          refine ⟨fun other hother => ?_, hnodup⟩
          obtain ⟨hname, htype, hfield, hseen⟩ := hrest other hother
          exact ⟨hname, htype, hfield, hnew other hother, hseen⟩

theorem synthesize_eq_ok_iff : t.synthesize options = .ok file ↔
    t.validate = .ok () ∧ file = {
      nullableContext := options.nullableContext
      usings := t.companionUsings
      namespaceName := t.namespaceName
      declaration := {
        modifiers := t.modifiers
        kind := t.kind
        name := t.name
        typeParameters := t.typeParameters
        baseList := ["INotifyPropertyChanged"]
        members := t.items options } } := by
  rw [synthesize, except_bind_eq_ok]
  constructor
  · rintro ⟨_, hvalid, hfile⟩
    exact ⟨hvalid, (Except.ok.inj hfile).symm⟩
  · rintro ⟨hvalid, rfl⟩
    exact ⟨(), hvalid, rfl⟩

/-- What can be read off the companion of a type. -/
structure IsCompanion (t : ObservableType) (file : SourceFile) : Prop where
  namespaceName : file.namespaceName = t.namespaceName
  usings : file.usings = t.companionUsings
  key : file.key = t.key
  qualifiedName : file.qualifiedName = t.qualifiedName
  declaresEvent : file.declaresEvent = t.policy.generateEvent
  declaresTrigger : file.declaresTrigger = t.policy.generateEvent
  declaresGlobalHook : file.declaresGlobalHook = t.hasGlobalHook
  properties : file.properties = t.fields.map DecoratedField.view
  setterCalls : file.setterCalls = t.fields.map fun _ => some t.policy.trigger

theorem isCompanion_of_synthesize (h : t.synthesize options = .ok file) : t.IsCompanion file := by
  obtain ⟨-, rfl⟩ := synthesize_eq_ok_iff.mp h
  refine ⟨rfl, rfl, rfl, rfl, ?_, ?_, ?_, filterMap_property?_items t options,
    filterMap_setterCall?_items t options⟩
  all_goals
    refine (any_items ?_).trans ?_
    · intro field
      unfold fieldItems
      split <;> rfl
    · simp [Item.isEvent, Item.isImplemented, Item.isGlobalHook, eventItem, triggerItem,
        Item.partialMethod]

/-- A companion imports the namespaces that its fields need. -/
theorem imports_companionUsings {field : DecoratedField} {ns : String} (hfield : field ∈ t.fields)
    (h : ns ∈ field.namespaces.items) :
    (Scope.of t.namespaceName t.companionUsings).Imports ns := by
  refine Scope.imports_of_mem ?_ t.namespaceName
  rw [NamespaceSet.foldl_insertAll, NamespaceSet.mem_insertAll]
  exact .inr ⟨List.mem_flatMap.mpr ⟨field, hfield, h⟩,
    ne_of_mem_of_not_mem h field.namespaces.proper⟩

end ObservableType

end Companion
