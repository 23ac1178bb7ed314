import Companion.Symbol.Basic
import Companion.Text.Decimal
import Companion.TypeRef.Parser

/-!
# The model of all types

A model holds one symbol for each full name and number of type parameters. It is built from source
units in two steps: first every declaration is entered, parts of one type being merged, and then
base classes are resolved, so that a base may be declared after the type that names it.
-/

namespace Companion

/-- The types that are known, in the order in which they were entered. -/
structure Model where
  symbols : List Symbol := []
  deriving DecidableEq, Repr, Inhabited

namespace Model

/-- The model that knows nothing. -/
def empty : Model := {}

/-- The number of types. -/
def size (model : Model) : Nat := model.symbols.length

/-- Whether no type is known. -/
def isEmpty (model : Model) : Bool := model.symbols.isEmpty

/-- The symbol with a full name and a number of type parameters. -/
def lookup? (model : Model) (key : TypeKey) : Option Symbol :=
  model.symbols.find? (·.key = key)

/-- Changes the symbol with a key, which is added first if there is none. -/
def upsert (model : Model) (key : TypeKey) (fresh : Symbol) (change : Symbol → Symbol) : Model :=
  if model.symbols.any (·.key = key) then
    ⟨model.symbols.map fun s => if s.key = key then change s else s⟩
  else ⟨model.symbols ++ [change fresh]⟩

/-- Adds a symbol, in place of the one with the same key. -/
def insert (model : Model) (symbol : Symbol) : Model :=
  model.upsert symbol.key symbol fun _ => symbol

/-- The symbol with a metadata name, in which the number of type parameters stands behind the last
backtick. -/
def lookupMetadata? (model : Model) (name : String) : Option Symbol :=
  match Text.cutLast? (Char.ofNat 96) name.toList with
  | some (simple, arity) => do
    model.lookup? (String.ofList simple, ← Text.readUnsigned? arity)
  | none => model.lookup? (name, 0)

/-- The symbol that a name means in a scope. -/
def resolve? (model : Model) (scope : Scope) (name : String) (arity : Nat) : Option Symbol :=
  (scope.candidates name).findSome? fun candidate => model.lookup? (candidate, arity)

/-- The symbol that a type means in a scope; only names have one. -/
def resolveRef? (model : Model) (scope : Scope) : TypeRef → Option Symbol
  | .named name args => model.resolve? scope name args.length
  | _ => none

/-- The symbol of a type's base class. -/
def baseOf? (model : Model) (symbol : Symbol) : Option Symbol := symbol.base.bind model.lookup?

/-! ## Building a model -/

/-- Enters a declaration, or merges it with the parts that were entered before it. The first part
decides the kind of the type. -/
def addDecl (usings : List String) (model : Model) (decl : TypeDecl) : Model :=
  model.upsert decl.key (.bare decl.namespaceName decl.name decl.arity decl.kind) fun s =>
    { s with members := s.members ++ decl.members, usings := addMissing s.usings usings }

/-- The base class of a declaration: the first entry of its base list that means a class. -/
def baseClass? (model : Model) (usings : List String) (decl : TypeDecl) : Option TypeKey :=
  if decl.kind.canBeBase then
    decl.baseList.findSome? fun entry => do
      let t ← (TypeRef.parse entry).toOption
      let symbol ← model.resolveRef? (.of decl.namespaceName usings) t
      if symbol.kind.canBeBase then some symbol.key else none
  else none

/-- Gives the symbol of a declaration the base class of the declaration, unless another part of
the type gave it one. -/
def addBase (model : Model) (key : TypeKey) (base : TypeKey) : Model :=
  ⟨model.symbols.map fun s =>
    if s.key = key && s.base.isNone then { s with base := some base } else s⟩

/-- All declarations of units, each with the imports of its unit. -/
def declarations (units : List SourceUnit) : List (List String × TypeDecl) :=
  units.flatMap fun unit => unit.types.map (unit.usings, ·)

/-- The model of the types that units declare. -/
def ofUnits (units : List SourceUnit) : Model :=
  let decls := declarations units
  let model := decls.foldl (fun model (usings, decl) => model.addDecl usings decl) empty
  let bases := decls.filterMap fun (usings, decl) =>
    (model.baseClass? usings decl).map (decl.key, ·)
  bases.foldl (fun model (key, base) => model.addBase key base) model

end Model

end Companion
