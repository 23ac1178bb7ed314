import Companion.Code.Tree
import Companion.Concrete.Basic
import Companion.Naming
import Companion.Options

/-!
# Code of concrete types

The companion of a concrete type has a constructor that initialises all properties, if one is
wanted and there is anything to initialise, and an automatic property for each property of the
interface.
-/

namespace Companion.ConcreteType

open Code

/-- Whether there is a constructor: it is wanted, and there is something to initialise. -/
def hasConstructor (t : ConcreteType) : Bool :=
  t.arguments.initializingConstructor && !t.properties.isEmpty

/-- The setter of a property. A property that the interface only reads needs none if the
constructor initialises it and other code is not to change it. -/
def setterKind (t : ConcreteType) (p : InterfaceProperty) : SetterKind :=
  if p.readOnly && t.arguments.privateSetters && t.hasConstructor then .absent
  else if t.arguments.privateSetters then .privateSet
  else .publicSet

/-- The constructor, with a parameter and an assignment for each property. -/
def constructorItem (t : ConcreteType) : Item :=
  let names := Naming.parameterNames (t.properties.map (·.name))
  let parameters := t.properties.zipWith
    (fun p name => { type := p.type, name : Parameter }) names
  let body := t.properties.zipWith (fun p name => Statement.set p.name (.ident name)) names
  .constructor [] ["public"] t.name parameters body

/-- A property of the interface as an automatic property. -/
def propertyItem (t : ConcreteType) (p : InterfaceProperty) : Item :=
  .property ["Implements " ++ t.interfaceName ++ "." ++ p.name] ["public"] p.type p.name
    (.auto (t.setterKind p))

/-- The members of the companion, the constructor first. -/
def items (t : ConcreteType) : List Item :=
  (if t.hasConstructor then [t.constructorItem] else []) ++ t.properties.map t.propertyItem

/-- The imports of the companion: the interface's namespace, then what the properties need. -/
def companionUsings (t : ConcreteType) : List String :=
  let set := NamespaceSet.insertAll {} t.namespaces.items
  let set := t.properties.foldl (fun set p => set.insertAll p.namespaces.items) set
  match t.namespaceName with
  | some name => (set.remove name).items
  | none => set.items

/-- The companion of a concrete type. -/
def synthesize (t : ConcreteType) (options : Options) : SourceFile where
  nullableContext := options.nullableContext
  usings := t.companionUsings
  namespaceName := t.namespaceName
  declaration := {
    modifiers := t.modifiers
    kind := t.kind
    name := t.name
    typeParameters := t.typeParameters
    baseList := if t.arguments.implementInterface then [t.interfaceName] else []
    members := t.items }

end Companion.ConcreteType
