import Companion.Concrete.Basic
import Companion.Registry

/-!
# Finding the concrete types

Of several parts of a type with a marker the first one counts.
-/

namespace Companion.ConcreteType

/-- The entry of a declaration, if it has a marker and can have generated members. -/
def marked? (decl : TypeDecl) : Option ConcreteType := do
  let arguments ← Marker.findConcrete? decl.attributes
  if decl.kind.isGeneratable then
    return { bare decl.namespaceName decl.name decl.kind arguments with
      typeParameters := decl.typeParameters }
  else none

/-- Enters a declaration with a marker, unless another part of its type had one. -/
def collectDecl (registry : Registry String ConcreteType) (decl : TypeDecl) :
    Registry String ConcreteType :=
  match marked? decl with
  | some t => registry.upsert decl.qualifiedName t id
  | none => registry

/-- The types with a marker. The modifiers come from all parts of a type. -/
def collect (units : List SourceUnit) : Registry String ConcreteType :=
  let decls := (Model.declarations units).map Prod.snd
  let registry := decls.foldl collectDecl {}
  decls.foldl
    (fun registry decl => registry.modify decl.qualifiedName (·.addModifiers decl.modifiers))
    registry

end Companion.ConcreteType
