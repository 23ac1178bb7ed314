import Companion.Concrete.Basic
import Companion.Diagnostic
import Companion.Options

/-!
# Properties of an interface

A concrete type takes over the properties that its interface declares itself, in order. Their types
may be made nullable, values and references each on demand.
-/

namespace Companion

/-- Value types of the `System` namespace that manifests rarely declare. -/
def wellKnownValueTypes : List String :=
  ["Boolean", "Byte", "SByte", "Char", "Decimal", "Double", "Single", "Int16", "UInt16", "Int32",
    "UInt32", "Int64", "UInt64", "IntPtr", "UIntPtr", "DateTime", "DateTimeOffset", "DateOnly",
    "TimeOnly", "TimeSpan", "Guid"]

/-- A name without the namespace `System` in front. -/
def withoutSystem (name : String) : String :=
  ((Text.after? "System.".toList name.toList).map String.ofList).getD name

/-- Whether a type has reference semantics. A name that means nothing in the scope is taken for a
reference, unless it is well known as a value. -/
def Model.isReference (model : Model) (scope : Scope) (t : TypeRef) : Bool :=
  match t with
  | .predefined _ => t.isPredefinedReference
  | .named name args =>
    match model.resolve? scope name args.length with
    | some symbol => symbol.isReference
    | none => !(args.isEmpty && wellKnownValueTypes.contains (withoutSystem name))
  | .array _ _ => true
  | .tuple _ | .nullable _ | .pointer _ | .functionPointer _ _ => false

namespace ConcreteType

/-- The type of a property that is taken over. Null references exist only in a nullable context. -/
def applyNullability (t : TypeRef) (isReference : Bool) (arguments : ConcreteArguments)
    (nullableContext : Bool) : TypeRef :=
  let wanted :=
    if isReference then arguments.nullableReferences && nullableContext
    else arguments.nullableValues
  if wanted then t.orNull else t

/-- What is taken over of a member, if it is a property. -/
def readMember? (interface : Symbol) (model : Model) (arguments : ConcreteArguments)
    (options : Options) : Member → Option (Except GenerateError InterfaceProperty)
  | .property name typeName hasSetter =>
    some <|
      match TypeRef.parse typeName with
      | .error e => .error (.invalidType typeName e)
      | .ok t => .ok {
          name
          type := applyNullability t (model.isReference interface.scope t) arguments
            options.nullableContext
          readOnly := !hasSetter
          namespaces := model.requiredNamespaces interface.scope t }
  | _ => none

/-- What is taken over of an interface. The first type that cannot be read is an error. -/
def readProperties (interface : Symbol) (model : Model) (arguments : ConcreteArguments)
    (options : Options) : Except GenerateError (List InterfaceProperty) :=
  (interface.members.filterMap (readMember? interface model arguments options)).mapM id

/-- An interface with type parameters is named without type arguments, so it cannot be written in a
base list. -/
def checkInterface (t : ConcreteType) (interface : Symbol) : Except GenerateError Unit :=
  if t.arguments.implementInterface && 0 < interface.arity then
    .error (.genericInterfaceBase t.fullName interface.fullName)
  else .ok ()

end ConcreteType

end Companion
