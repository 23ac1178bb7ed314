import Companion.Declaration.Basic
import Companion.Text.Search

/-!
# Symbols and scopes

A symbol is a type as the rest of the program knows it: all parts of a partial type together, with
its base class looked up. A scope is what names mean at a place: the namespace around it and the
namespaces imported there.
-/

namespace Companion

/-- A member of a type. Types of members are texts, as they are written. -/
inductive Member where
  | field (name typeName : String)
  | property (name typeName : String) (hasSetter : Bool)
  | method (name returnType : String) (parameters : List String)
  | event (name typeName : String)
  deriving DecidableEq, Repr

namespace Member

/-- The name of a member. -/
def name : Member → String
  | field name _ | property name _ _ | method name _ _ | event name _ => name

/-- Whether a member is a method. -/
def isMethod : Member → Bool
  | method _ _ _ => true
  | _ => false

/-- Whether a member is a property. -/
def isProperty : Member → Bool
  | property _ _ _ => true
  | _ => false

end Member

/-- Full name and number of type parameters: what identifies a type. -/
abbrev TypeKey := String × Nat

/-- The names visible at a place. -/
structure Scope where
  namespaceName : Option String := none
  usings : List String := []
  deriving DecidableEq, Repr

namespace Scope

/-- A scope whose namespace, if it is the empty text, is the global one. -/
def of (namespaceName : Option String) (usings : List String) : Scope :=
  ⟨properNamespace namespaceName, usings⟩

/-- A namespace and the namespaces around it, from the inside out. -/
def enclosing (namespaceName : String) : List String :=
  let segments := (Text.splitBy (· = '.') namespaceName.toList).map String.ofList
  (List.range segments.length).map fun k => ".".intercalate (segments.take (segments.length - k))

/-- The full names that a name may stand for, in the order in which they are tried. A name with a
dot may be a full name itself, and is tried as one first; a name without is tried as one last. -/
def candidates (scope : Scope) (name : String) : List String :=
  let dotted := name.toList.contains '.'
  let around := (scope.namespaceName.map enclosing).getD []
  (if dotted then [name] else []) ++ around.map (· ++ "." ++ name) ++
    scope.usings.map (· ++ "." ++ name) ++ (if dotted then [] else [name])

end Scope

/-- A type with everything that its parts say about it. -/
structure Symbol where
  namespaceName : Option String := none
  name : String
  arity : Nat := 0
  kind : TypeKind := .plainClass
  /-- The base class, if it is known. -/
  base : Option TypeKey := none
  members : List Member := []
  /-- The namespaces imported where the type is declared. -/
  usings : List String := []
  deriving DecidableEq, Repr

namespace Symbol

/-- A symbol without members, in a namespace that may be the empty text. -/
def bare (namespaceName : Option String) (name : String) (arity : Nat) (kind : TypeKind) : Symbol :=
  { namespaceName := properNamespace namespaceName, name, arity, kind }

/-- The namespace, if any, and the simple name. -/
def fullName (s : Symbol) : String := fullNameIn s.namespaceName s.name

/-- What identifies the type: types of one full name are told apart by their type parameters. -/
def key (s : Symbol) : TypeKey := (s.fullName, s.arity)

/-- Whether the type has reference semantics. -/
def isReference (s : Symbol) : Bool := s.kind.isReference

/-- The scope in which the types of the symbol's members are written. -/
def scope (s : Symbol) : Scope := .of s.namespaceName s.usings

/-- The members with a name, which may be overloads. -/
def membersNamed (s : Symbol) (name : String) : List Member := s.members.filter (·.name = name)

/-- Whether the type itself has a member with a name. -/
def hasMember (s : Symbol) (name : String) : Bool := s.members.any (·.name = name)

/-- The methods of the type itself, in order. -/
def methods (s : Symbol) : List Member := s.members.filter Member.isMethod

/-- The properties of the type itself, in order. -/
def properties (s : Symbol) : List Member := s.members.filter Member.isProperty

end Symbol

/-- The members of a declaration: fields with a name and a type, properties, methods, events. -/
def TypeDecl.members (decl : TypeDecl) : List Member :=
  decl.fields.filterMap (fun f =>
    match f.name, f.typeName with
    | some name, some typeName => some (.field name typeName)
    | _, _ => none) ++
  decl.properties.map (fun p => .property p.name p.typeName p.hasSetter) ++
  decl.methods.map (fun m => .method m.name m.returnType (m.parameters.map (·.typeName))) ++
  decl.events.map (fun e => .event e.name e.typeName)

/-- What identifies the type of which a declaration is a part. -/
def TypeDecl.key (decl : TypeDecl) : TypeKey := (decl.fullName, decl.arity)

/-- Adds the texts that a list does not have yet, in order. -/
def addMissing (texts more : List String) : List String :=
  more.foldl (fun texts text => if texts.contains text then texts else texts ++ [text]) texts

end Companion
