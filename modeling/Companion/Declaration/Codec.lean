import Companion.Declaration.Basic
import Companion.Json.Reader

/-!
# Declarations in JSON

Every declaration is a record of the form of `Companion.Json.Fields`. Only names, and the types of
properties, parameters and events, have to be given; all other fields have defaults. `null` stands
for an absent text and for nothing else.

Writing gives every field, so what is written can be read back without a default.

A manifest is a JSON text with one source unit or a list of them. Since a record may be written as
an array, some texts can be read both ways; the reading as one unit comes first. So `[]` is one
unit with nothing in it, and not an empty list of units.
-/

namespace Companion

open Json (text? flag? textOrNull? list? case? fields? ofText ofTextOrNull ofList)

namespace TypeKind

/-- The kind with a name; `record class` is another name of `record`. -/
def ofName? : String → Option TypeKind
  | "class" => some plainClass
  | "struct" => some struct
  | "record" => some record
  | "record class" => some record
  | "record struct" => some recordStruct
  | "interface" => some interface
  | "enum" => some enum
  | _ => none

/-- The kind that a JSON value names. -/
def ofJson? (json : Json) : Option TypeKind := (case? json).bind ofName?

end TypeKind

/-- Reads an attribute. -/
def Attribute.ofJson? (json : Json) : Option Attribute := do
  let f ← fields? ["name", "arguments"] json
  return {
    name := ← f.required "name" text?
    arguments := ← f.optional "arguments" [] (list? text?) }

/-- Writes an attribute. -/
def Attribute.toJson (a : Attribute) : Json :=
  .object [("name", ofText a.name), ("arguments", ofList ofText a.arguments)]

/-- Reads a field. -/
def FieldDecl.ofJson? (json : Json) : Option FieldDecl := do
  let f ← fields? ["name", "type", "modifiers", "attributes", "doc"] json
  return {
    name := ← f.optional "name" none textOrNull?
    typeName := ← f.optional "type" none textOrNull?
    modifiers := ← f.optional "modifiers" [] (list? text?)
    attributes := ← f.optional "attributes" [] (list? Attribute.ofJson?)
    doc := ← f.optional "doc" none textOrNull? }

/-- Writes a field. -/
def FieldDecl.toJson (d : FieldDecl) : Json :=
  .object [("name", ofTextOrNull d.name), ("type", ofTextOrNull d.typeName),
    ("modifiers", ofList ofText d.modifiers), ("attributes", ofList Attribute.toJson d.attributes),
    ("doc", ofTextOrNull d.doc)]

/-- Reads a property. -/
def PropertyDecl.ofJson? (json : Json) : Option PropertyDecl := do
  let f ← fields? ["name", "type", "hasGetter", "hasSetter", "doc"] json
  return {
    name := ← f.required "name" text?
    typeName := ← f.required "type" text?
    hasGetter := ← f.optional "hasGetter" true flag?
    hasSetter := ← f.optional "hasSetter" false flag?
    doc := ← f.optional "doc" none textOrNull? }

/-- Writes a property. -/
def PropertyDecl.toJson (d : PropertyDecl) : Json :=
  .object [("name", ofText d.name), ("type", ofText d.typeName), ("hasGetter", .bool d.hasGetter),
    ("hasSetter", .bool d.hasSetter), ("doc", ofTextOrNull d.doc)]

/-- Reads a parameter. -/
def ParameterDecl.ofJson? (json : Json) : Option ParameterDecl := do
  let f ← fields? ["name", "type"] json
  return { name := ← f.required "name" text?, typeName := ← f.required "type" text? }

/-- Writes a parameter. -/
def ParameterDecl.toJson (d : ParameterDecl) : Json :=
  .object [("name", ofText d.name), ("type", ofText d.typeName)]

/-- Reads a method. -/
def MethodDecl.ofJson? (json : Json) : Option MethodDecl := do
  let f ← fields? ["name", "returnType", "modifiers", "parameters"] json
  return {
    name := ← f.required "name" text?
    returnType := ← f.optional "returnType" "void" text?
    modifiers := ← f.optional "modifiers" [] (list? text?)
    parameters := ← f.optional "parameters" [] (list? ParameterDecl.ofJson?) }

/-- Writes a method. -/
def MethodDecl.toJson (d : MethodDecl) : Json :=
  .object [("name", ofText d.name), ("returnType", ofText d.returnType),
    ("modifiers", ofList ofText d.modifiers),
    ("parameters", ofList ParameterDecl.toJson d.parameters)]

/-- Reads an event. -/
def EventDecl.ofJson? (json : Json) : Option EventDecl := do
  let f ← fields? ["name", "type"] json
  return { name := ← f.required "name" text?, typeName := ← f.required "type" text? }

/-- Writes an event. -/
def EventDecl.toJson (d : EventDecl) : Json :=
  .object [("name", ofText d.name), ("type", ofText d.typeName)]

/-- Reads a type, of which only the name has to be given. -/
def TypeDecl.ofJson? (json : Json) : Option TypeDecl := do
  let f ← fields? ["namespace", "name", "kind", "typeParameters", "modifiers", "baseList",
    "attributes", "doc", "fields", "properties", "methods", "events"] json
  return {
    namespaceName := ← f.optional "namespace" none textOrNull?
    name := ← f.required "name" text?
    kind := ← f.optional "kind" .plainClass TypeKind.ofJson?
    typeParameters := ← f.optional "typeParameters" [] (list? text?)
    modifiers := ← f.optional "modifiers" [] (list? text?)
    baseList := ← f.optional "baseList" [] (list? text?)
    attributes := ← f.optional "attributes" [] (list? Attribute.ofJson?)
    doc := ← f.optional "doc" none textOrNull?
    fields := ← f.optional "fields" [] (list? FieldDecl.ofJson?)
    properties := ← f.optional "properties" [] (list? PropertyDecl.ofJson?)
    methods := ← f.optional "methods" [] (list? MethodDecl.ofJson?)
    events := ← f.optional "events" [] (list? EventDecl.ofJson?) }

/-- Writes a type. -/
def TypeDecl.toJson (d : TypeDecl) : Json :=
  .object [("namespace", ofTextOrNull d.namespaceName), ("name", ofText d.name),
    ("kind", ofText d.kind.keyword), ("typeParameters", ofList ofText d.typeParameters),
    ("modifiers", ofList ofText d.modifiers), ("baseList", ofList ofText d.baseList),
    ("attributes", ofList Attribute.toJson d.attributes), ("doc", ofTextOrNull d.doc),
    ("fields", ofList FieldDecl.toJson d.fields),
    ("properties", ofList PropertyDecl.toJson d.properties),
    ("methods", ofList MethodDecl.toJson d.methods),
    ("events", ofList EventDecl.toJson d.events)]

/-- Reads the declarations of a source file. Nothing has to be given. -/
def SourceUnit.ofJson? (json : Json) : Option SourceUnit := do
  let f ← fields? ["path", "usings", "types"] json
  return {
    path := ← f.optional "path" none textOrNull?
    usings := ← f.optional "usings" [] (list? text?)
    types := ← f.optional "types" [] (list? TypeDecl.ofJson?) }

/-- Writes the declarations of a source file. -/
def SourceUnit.toJson (u : SourceUnit) : Json :=
  .object [("path", ofTextOrNull u.path), ("usings", ofList ofText u.usings),
    ("types", ofList TypeDecl.toJson u.types)]

/-! ## Manifests -/

namespace Manifest

/-- The file names of manifests end like this. -/
def suffix : String := ".decl.json"

/-- The units of a manifest that has been read as JSON. -/
def units? (json : Json) : Option (List SourceUnit) :=
  match SourceUnit.ofJson? json with
  | some unit => some [unit]
  | none => Json.list? SourceUnit.ofJson? json

/-- The units of the text of a manifest. -/
def parse? (text : String) : Option (List SourceUnit) := do
  let json ← Json.read? text
  if json.isTractable then units? json else none

/-- A unit that does not say where it comes from gets the path of its manifest. -/
def locate (path : String) (unit : SourceUnit) : SourceUnit :=
  { unit with path := some (unit.path.getD path) }

/-- The units of the manifest at a path. -/
def load? (path text : String) : Option (List SourceUnit) :=
  (parse? text).map (List.map (locate path))

end Manifest

end Companion
