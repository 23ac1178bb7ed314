import Companion.Code.Tree
import Companion.Naming
import Companion.Observable.Basic

/-!
# Code of observable types

The companion of an observable type has the change event and the method that raises it, unless an
ancestor has them, then a property for each decorated field, and the declarations of the hooks.
-/

namespace Companion.ObservableType

open Code

/-- The imports of every companion. -/
def infrastructureUsings : List String :=
  ["System", "System.Collections.Generic", "System.ComponentModel",
    "System.Runtime.CompilerServices"]

/-- Refuses property names that would not compile, where `seen` has the names met so far. -/
def validateFields (t : ObservableType) (seen : List String) :
    List DecoratedField → Except GenerateError Unit
  | [] => .ok ()
  | field :: fields =>
    let name := field.arguments.name
    if !Naming.isIdentifier name || name = t.name then
      .error (.invalidPropertyName t.qualifiedName name)
    else if name = field.name || seen.contains name then
      .error (.duplicateProperty t.qualifiedName name)
    else t.validateFields (name :: seen) fields

/-- Every property name is an identifier, differs from the type's name and from its own field, and
occurs once. -/
def validate (t : ObservableType) : Except GenerateError Unit := t.validateFields [] t.fields

/-- The imports of the companion: those of every companion, then what the fields need. -/
def companionUsings (t : ObservableType) : List String :=
  let set := NamespaceSet.insertAll {} infrastructureUsings
  let set := t.fields.foldl (fun set f => set.insertAll f.namespaces.items) set
  match t.namespaceName with
  | some name => (set.remove name).items
  | none => set.items

/-- The nullable form of a type, where there is a nullable context. -/
def nullableIf (nullableContext : Bool) (t : TypeRef) : TypeRef :=
  if nullableContext then t.orNull else t

/-- The change event. -/
def eventItem (options : Options) : Item :=
  .event ["Event triggered when a property changes its value"] ["public"]
    (nullableIf options.nullableContext (.named "PropertyChangedEventHandler" [])) changeEvent

/-- The method that raises the event. Derived types may override it. -/
def triggerItem (t : ObservableType) (options : Options) : Item :=
  let modifiers := if t.isInheritable then ["protected", "virtual"] else ["private"]
  let parameter : Parameter :=
    { type := nullableIf options.nullableContext (.predefined "string")
      name := "propertyName"
      attributes := ["CallerMemberName"]
      default := some .null }
  let raise := .expr (.conditionalInvoke (.ident changeEvent) "Invoke"
    [.this, .new (.named "PropertyChangedEventArgs" []) [.ident "propertyName"]])
  .method [] modifiers (.predefined "void") t.policy.trigger [parameter] (some [raise])

/-- The body of a setter: leave if nothing changes, keep the old value, assign, raise the event,
call the hook of the property, call the global hook. -/
def setterBody (t : ObservableType) (field : DecoratedField) : List Statement :=
  let name := field.arguments.name
  let guardStatements :=
    if field.arguments.compareValues then
      [.ifThen (.equals (.ident field.name) (.ident "value")) .leave]
    else []
  let capture :=
    if field.hookName?.isSome then [.localVar "oldValue" (.ident field.name)] else []
  -- an inherited trigger need not know the name of its caller
  let triggerArgs := if t.policy.generateEvent then [] else [.string name]
  let hooks :=
    match field.hookName? with
    | none => []
    | some hook =>
      [.call hook [.ident "oldValue", .ident field.name]] ++
        if t.hasGlobalHook then [.call t.policy.globalHook [.string name]] else []
  guardStatements ++ capture ++ [.set field.name (.ident "value")] ++
    [.call t.policy.trigger triggerArgs] ++ hooks

/-- The property of a field, and the declaration of its hook. -/
def fieldItems (t : ObservableType) (field : DecoratedField) : List Item :=
  let property := .property field.comments ["public"] field.type field.arguments.name
    (.backed field.name (t.setterBody field))
  match field.hookName? with
  | none => [property]
  | some hook =>
    [property,
      .partialMethod [] hook
        [⟨field.type, "oldValue", [], none⟩, ⟨field.type, "newValue", [], none⟩]]

/-- The documentation of the global hook. -/
def globalHookDoc : String :=
  "This partial method is called from all the properties generated with the 'ExtraNotify' flag"

/-- The members of the companion: event and trigger, then properties with their hooks, then the
global hook. -/
def items (t : ObservableType) (options : Options) : List Item :=
  (if t.policy.generateEvent then [eventItem options, t.triggerItem options] else []) ++
  t.fields.flatMap t.fieldItems ++
  (if t.hasGlobalHook then
    [.partialMethod [globalHookDoc] t.policy.globalHook
      [⟨.predefined "string", "propertyName", [], none⟩]]
  else [])

/-- The companion of an observable type. -/
def synthesize (t : ObservableType) (options : Options) : Except GenerateError SourceFile := do
  t.validate
  return {
    nullableContext := options.nullableContext
    usings := t.companionUsings
    namespaceName := t.namespaceName
    declaration := {
      modifiers := t.modifiers
      kind := t.kind
      name := t.name
      typeParameters := t.typeParameters
      baseList := ["INotifyPropertyChanged"]
      members := t.items options } }

end Companion.ObservableType
