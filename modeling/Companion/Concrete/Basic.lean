import Companion.Marker.Basic
import Companion.TypeRef.Namespaces

/-!
# Concrete types

A type that is to get the properties of an interface.
-/

namespace Companion

/-- A property of the interface, as the concrete type will have it. -/
structure InterfaceProperty where
  name : String
  type : TypeRef
  /-- The interface has no setter for it. -/
  readOnly : Bool := false
  /-- The namespaces that the property's type needs. -/
  namespaces : NamespaceSet := {}

/-- A type that gets the properties of an interface. Its marker names the interface, which is
looked up when the batch comes to the type. -/
structure ConcreteType where
  namespaceName : Option String := none
  name : String
  kind : TypeKind := .plainClass
  typeParameters : List String := []
  modifiers : List String := Modifiers.initial
  arguments : ConcreteArguments := {}
  /-- The simple name of the interface, once it has been found. -/
  interfaceName : String := ""
  properties : List InterfaceProperty := []
  /-- The namespace of the interface. -/
  namespaces : NamespaceSet := {}

namespace ConcreteType

/-- A type without properties, in a namespace that may be the empty text. -/
def bare (namespaceName : Option String) (name : String) (kind : TypeKind)
    (arguments : ConcreteArguments) : ConcreteType :=
  { namespaceName := properNamespace namespaceName, name, kind, arguments }

/-- The name under which parts of one type come together. -/
def qualifiedName (t : ConcreteType) : String := qualifiedNameIn t.namespaceName t.name

/-- The name by which the model knows the type. -/
def fullName (t : ConcreteType) : String := fullNameIn t.namespaceName t.name

/-- What the model identifies the type by. -/
def key (t : ConcreteType) : TypeKey := (t.fullName, t.typeParameters.length)

/-- Adds the modifiers of another part of the type. -/
def addModifiers (t : ConcreteType) (modifiers : List String) : ConcreteType :=
  { t with modifiers := Modifiers.merge t.modifiers modifiers }

end ConcreteType

end Companion
