import Companion.EventPolicy
import Companion.Marker.Basic
import Companion.NamespaceSet

/-!
# Observable types

A type with fields that are to become observable properties.
-/

namespace Companion

/-- A field with a property marker. -/
structure DecoratedField where
  name : String
  type : TypeRef
  /-- The lines of the field's documentation. -/
  comments : List String := []
  arguments : PropertyArguments
  /-- The namespaces that the field's type needs. -/
  namespaces : NamespaceSet := {}

/-- The hook of a property with extra notification. -/
def DecoratedField.hookName? (f : DecoratedField) : Option String :=
  if f.arguments.extraNotify then some ("On" ++ f.arguments.name ++ "Changed") else none

/-- A type with decorated fields, from all of its parts. Its policy is decided when the batch comes
to it. -/
structure ObservableType where
  namespaceName : Option String := none
  name : String
  kind : TypeKind := .plainClass
  typeParameters : List String := []
  modifiers : List String := Modifiers.initial
  fields : List DecoratedField := []
  policy : EventPolicy := {}
  /-- The namespaces imported where the decorated fields are declared. -/
  usings : List String := []

namespace ObservableType

/-- A type without fields, in a namespace that may be the empty text. -/
def bare (namespaceName : Option String) (name : String) (kind : TypeKind) : ObservableType :=
  { namespaceName := properNamespace namespaceName, name, kind }

/-- The name under which parts of one type come together. -/
def qualifiedName (t : ObservableType) : String := qualifiedNameIn t.namespaceName t.name

/-- The name by which the model knows the type. -/
def fullName (t : ObservableType) : String := fullNameIn t.namespaceName t.name

/-- What the model identifies the type by. -/
def key (t : ObservableType) : TypeKey := (t.fullName, t.typeParameters.length)

/-- The scope in which the types of the fields are written. -/
def scope (t : ObservableType) : Scope := .of t.namespaceName t.usings

/-- Adds the modifiers of another part of the type. -/
def addModifiers (t : ObservableType) (modifiers : List String) : ObservableType :=
  { t with modifiers := Modifiers.merge t.modifiers modifiers }

/-- Adds the imports of another part of the type. -/
def addUsings (t : ObservableType) (usings : List String) : ObservableType :=
  { t with usings := addMissing t.usings usings }

/-- Adds a field behind those that were found before. -/
def addField (t : ObservableType) (f : DecoratedField) : ObservableType :=
  { t with fields := t.fields ++ [f] }

/-- Whether another type can be derived from this one. -/
def isInheritable (t : ObservableType) : Bool :=
  (match t.kind with
    | .struct | .recordStruct => false
    | _ => true) && !t.modifiers.any fun m => m = "sealed" || m = "static"

/-- Whether the type declares and calls the global hook. -/
def hasGlobalHook (t : ObservableType) : Bool := t.policy.globalHook ≠ ""

end ObservableType

end Companion
