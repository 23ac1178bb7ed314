/-!
# Declarations

What a host compiler exports of a C# source file: its imports and its types, each with the members
that matter here. Types of members and bases are texts, exactly as they are written in the source.

A type may be declared in parts. What completes it has the modifiers of all of them, each once and
in the order in which they are met, and is partial; `partial` has to come last.
-/

namespace Companion

/-- The kinds of types. A `record class` is a record. -/
inductive TypeKind where
  | plainClass
  | struct
  | record
  | recordStruct
  | interface
  | enum
  deriving DecidableEq, Repr, Inhabited

namespace TypeKind

/-- The keywords that introduce a declaration. -/
def keyword : TypeKind → String
  | plainClass => "class"
  | struct => "struct"
  | record => "record"
  | recordStruct => "record struct"
  | interface => "interface"
  | enum => "enum"

/-- The kinds with reference semantics. -/
def isReference : TypeKind → Bool
  | plainClass | record | interface => true
  | struct | recordStruct | enum => false

/-- The kinds that can be the base class of another type. -/
def canBeBase : TypeKind → Bool
  | plainClass | record => true
  | struct | recordStruct | interface | enum => false

/-- The kinds that can receive generated members. -/
def isGeneratable : TypeKind → Bool
  | plainClass | struct | record | recordStruct => true
  | interface | enum => false

end TypeKind

/-- A namespace that is present and not the empty text; the empty one is the global namespace. -/
def properNamespace (namespaceName : Option String) : Option String := namespaceName.filter (· ≠ "")

/-- The full name of a type: its namespace, if any, and its simple name. -/
def fullNameIn (namespaceName : Option String) (name : String) : String :=
  match namespaceName with
  | some ns => ns ++ "." ++ name
  | none => name

/-- The name of a type with its namespace in front, even if that is missing. -/
def qualifiedNameIn (namespaceName : Option String) (name : String) : String :=
  namespaceName.getD "" ++ "." ++ name

/-- An attribute with its argument tokens as they are written. -/
structure Attribute where
  name : String
  arguments : List String := []
  deriving DecidableEq, Repr

/-- A field; while it is being typed it may lack its name or its type. -/
structure FieldDecl where
  name : Option String := none
  typeName : Option String := none
  modifiers : List String := []
  attributes : List Attribute := []
  doc : Option String := none
  deriving DecidableEq, Repr

/-- A property. -/
structure PropertyDecl where
  name : String
  typeName : String
  hasGetter : Bool := true
  hasSetter : Bool := false
  doc : Option String := none
  deriving DecidableEq, Repr

/-- A parameter of a method. -/
structure ParameterDecl where
  name : String
  typeName : String
  deriving DecidableEq, Repr

/-- A method. -/
structure MethodDecl where
  name : String
  returnType : String := "void"
  modifiers : List String := []
  parameters : List ParameterDecl := []
  deriving DecidableEq, Repr

/-- An event. -/
structure EventDecl where
  name : String
  typeName : String
  deriving DecidableEq, Repr

/-- A declaration of a class, struct, record, interface or enum, or of a part of it. -/
structure TypeDecl where
  namespaceName : Option String := none
  name : String
  kind : TypeKind := .plainClass
  typeParameters : List String := []
  modifiers : List String := []
  /-- The base class and the interfaces, as they are written. -/
  baseList : List String := []
  attributes : List Attribute := []
  doc : Option String := none
  fields : List FieldDecl := []
  properties : List PropertyDecl := []
  methods : List MethodDecl := []
  events : List EventDecl := []
  deriving DecidableEq, Repr

namespace TypeDecl

/-- The name under which parts of one type come together. -/
def qualifiedName (decl : TypeDecl) : String := qualifiedNameIn decl.namespaceName decl.name

/-- The name by which the type is known; an empty namespace is none. -/
def fullName (decl : TypeDecl) : String :=
  fullNameIn (properNamespace decl.namespaceName) decl.name

/-- The number of type parameters. -/
def arity (decl : TypeDecl) : Nat := decl.typeParameters.length

end TypeDecl

/-- The declarations of one source file. -/
structure SourceUnit where
  path : Option String := none
  usings : List String := []
  types : List TypeDecl := []
  deriving DecidableEq, Repr

/-! ## Modifiers of a type in parts -/

namespace Modifiers

/-- The modifiers of a type of which no part has been seen. -/
def initial : List String := ["partial"]

/-- Adds the modifiers of another part. -/
def merge (modifiers more : List String) : List String :=
  more.foldl
    (fun merged m => if m = "partial" || merged.contains m then merged else merged ++ [m])
    (modifiers.filter (· ≠ "partial")) ++ ["partial"]

end Modifiers

end Companion
