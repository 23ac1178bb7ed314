import Companion.Doc
import Companion.Observable.Basic
import Companion.Registry

/-!
# Finding the observable types

The decorated fields of all parts of a type come together in one entry, keyed by its qualified
name. A field counts only if it is complete: it has a name, a type that can be read, a property
name, and stands in a type that can have generated members.
-/

namespace Companion.ObservableType

/-- A field of a declaration, if it is decorated and complete. -/
def decorated? (decl : TypeDecl) (field : FieldDecl) : Option DecoratedField := do
  let arguments ← Marker.findProperty? field.attributes
  let name ← field.name
  let typeName ← field.typeName
  if arguments.name = "" || !decl.kind.isGeneratable then none
  else
    let type ← (TypeRef.parse typeName).toOption
    return { name, type, comments := Doc.summary field.doc, arguments }

/-- The decorated fields of a declaration, in order. -/
def decoratedFields (decl : TypeDecl) : List DecoratedField :=
  decl.fields.filterMap (decorated? decl)

/-- The entry of a declaration before any of its fields. -/
def ofDecl (decl : TypeDecl) : ObservableType :=
  { bare decl.namespaceName decl.name decl.kind with typeParameters := decl.typeParameters }

/-- Enters the decorated fields of a declaration. -/
def collectDecl (registry : Registry String ObservableType) (usings : List String)
    (decl : TypeDecl) : Registry String ObservableType :=
  (decoratedFields decl).foldl
    (fun registry field =>
      registry.upsert decl.qualifiedName (ofDecl decl) fun t => (t.addUsings usings).addField field)
    registry

/-- The types with decorated fields. The modifiers come from all parts of a type, also from those
without decorated fields. -/
def collect (units : List SourceUnit) : Registry String ObservableType :=
  let decls := Model.declarations units
  let registry := decls.foldl (fun registry (usings, decl) => collectDecl registry usings decl) {}
  decls.foldl
    (fun registry (_, decl) => registry.modify decl.qualifiedName (·.addModifiers decl.modifiers))
    registry

end Companion.ObservableType
