import Companion.Declaration.Basic
import Companion.TypeRef.Basic

/-!
# Generated code

The tree of a generated source file: one type in an optional namespace, with just the statements
and expressions that generated members need.
-/

namespace Companion.Code

/-- An expression. -/
inductive Expr where
  | ident (name : String)
  | string (value : String)
  | null
  | this
  | equals (left right : Expr)
  /-- `target(args)` -/
  | invoke (target : Expr) (args : List Expr)
  /-- `target?.method(args)` -/
  | conditionalInvoke (target : Expr) (method : String) (args : List Expr)
  /-- `new type(args)` -/
  | new (type : TypeRef) (args : List Expr)
  deriving Inhabited

/-- A call of a method by its name. -/
def Expr.call (name : String) (args : List Expr) : Expr := invoke (ident name) args

/-- A statement. -/
inductive Statement where
  | ifThen (condition : Expr) (body : Statement)
  /-- `return;` -/
  | leave
  | localVar (name : String) (value : Expr)
  | assign (target value : Expr)
  | expr (e : Expr)
  deriving Inhabited

namespace Statement

/-- An assignment to a variable or member by its name. -/
def set (name : String) (value : Expr) : Statement := assign (.ident name) value

/-- The statement that calls a method by its name. -/
def call (name : String) (args : List Expr) : Statement := expr (.call name args)

end Statement

/-- A parameter of a method or a constructor. -/
structure Parameter where
  type : TypeRef
  name : String
  attributes : List String := []
  default : Option Expr := none

/-- Who may set an automatic property. -/
inductive SetterKind where
  | absent
  | publicSet
  | privateSet
  deriving DecidableEq, Repr

/-- How a property is read and set. -/
inductive Accessors where
  /-- An automatic property. -/
  | auto (setter : SetterKind)
  /-- A getter that returns a field, and a setter with a body. -/
  | backed (field : String) (setter : List Statement)

/-- A member of a generated type. -/
inductive Item where
  | event (docs modifiers : List String) (type : TypeRef) (name : String)
  /-- A method; without a body it is a declaration that ends in a semicolon. -/
  | method (docs modifiers : List String) (type : TypeRef) (name : String)
      (parameters : List Parameter) (body : Option (List Statement))
  | constructor (docs modifiers : List String) (name : String) (parameters : List Parameter)
      (body : List Statement)
  | property (docs modifiers : List String) (type : TypeRef) (name : String)
      (accessors : Accessors)

/-- A partial method without a body, `partial void name(parameters);`. -/
def Item.partialMethod (docs : List String) (name : String) (parameters : List Parameter) : Item :=
  method docs ["partial"] (.predefined "void") name parameters none

/-- The part of a type that is generated. -/
structure TypeDeclaration where
  docs : List String := []
  modifiers : List String := []
  kind : TypeKind
  name : String
  typeParameters : List String := []
  baseList : List String := []
  members : List Item := []

/-- A source file with one type in it. -/
structure SourceFile where
  nullableContext : Bool := false
  usings : List String := []
  namespaceName : Option String := none
  declaration : TypeDeclaration

end Companion.Code
