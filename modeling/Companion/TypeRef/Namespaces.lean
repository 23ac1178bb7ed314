import Companion.NamespaceSet
import Companion.Symbol.Model

/-!
# Namespaces that a type needs

A type can be written in another file if the namespaces of all names in it are imported there.
-/

namespace Companion

namespace TypeRef

mutual

/-- The names in a type with their numbers of type arguments, an outer name before those in its
arguments. -/
def names : TypeRef → List TypeKey
  | predefined _ => []
  | named name args => (name, args.length) :: namesAll args
  | array element _ => element.names
  | tuple elements => namesElements elements
  | nullable inner => inner.names
  | pointer inner => inner.names
  | functionPointer _ parameters => namesAll parameters

/-- The names in the arguments of a type, from left to right. -/
def namesAll : List TypeRef → List TypeKey
  | [] => []
  | t :: ts => t.names ++ namesAll ts

/-- The names in the elements of a tuple, from left to right. -/
def namesElements : List (TypeRef × Option String) → List TypeKey
  | [] => []
  | (t, _) :: rest => t.names ++ namesElements rest

end

end TypeRef

/-- The namespace of the type that a name means in a scope. -/
def Model.namespaceOf? (model : Model) (scope : Scope) (name : TypeKey) : Option String :=
  (model.resolve? scope name.1 name.2).bind (·.namespaceName)

/-- The namespaces of all names in a type, in the order in which they are met. Names that mean
nothing in the scope are passed over. -/
def Model.requiredNamespaces (model : Model) (scope : Scope) (t : TypeRef) : NamespaceSet :=
  NamespaceSet.insertAll {} (t.names.filterMap (model.namespaceOf? scope))

end Companion
