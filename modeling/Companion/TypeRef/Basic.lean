/-!
# Type references

A C# type as it is written in a declaration: built-in keywords, names with type arguments, arrays,
tuples, nullable types, pointers and function pointers.
-/

namespace Companion

/-- Texts with a comma and a blank between them. -/
def Text.commaSeparated (texts : List String) : String := ", ".intercalate texts

/-- A type as it is written. Names are not looked up: `System.String` is a name like any other. -/
inductive TypeRef where
  /-- A keyword type, `int` or `string`. -/
  | predefined (keyword : String)
  /-- A simple, qualified or generic name, `System.Text.StringBuilder` or `List<int>`. -/
  | named (name : String) (args : List TypeRef)
  /-- An array `T[]`, whose rank is one more than its commas: `T[,]` has rank two. -/
  | array (element : TypeRef) (rank : Nat)
  /-- A tuple type with optional element names, `(int Count, string)`. -/
  | tuple (elements : List (TypeRef × Option String))
  | nullable (inner : TypeRef)
  | pointer (inner : TypeRef)
  /-- A function pointer `delegate* unmanaged<A, R>`; the last parameter is the type returned. -/
  | functionPointer (convention : Option String) (parameters : List TypeRef)
  deriving Inhabited

namespace TypeRef

open Text (commaSeparated)

/-- The keywords that name built-in types. -/
def predefinedKeywords : List String :=
  ["bool", "byte", "sbyte", "char", "decimal", "double", "float", "int", "uint", "nint", "nuint",
    "long", "ulong", "short", "ushort", "object", "string", "dynamic", "void"]

/-- The built-in types with reference semantics. -/
def predefinedReferences : List String := ["object", "string", "dynamic"]

/-- Whether the type is written as nullable. -/
def isNullable : TypeRef → Bool
  | nullable _ => true
  | _ => false

/-- The nullable form of a type; a nullable type is its own. -/
def orNull (t : TypeRef) : TypeRef := if t.isNullable then t else nullable t

/-- Whether this is a keyword type with reference semantics. -/
def isPredefinedReference : TypeRef → Bool
  | predefined keyword => predefinedReferences.contains keyword
  | _ => false

/-- Whether the type is the string type, under its keyword or its name. -/
def isString : TypeRef → Bool
  | predefined keyword => keyword == "string"
  | named name [] => name == "String" || name == "System.String"
  | _ => false

mutual

/-- The type in C# syntax. -/
def display : TypeRef → String
  | predefined keyword => keyword
  | named name [] => name
  | named name (arg :: args) =>
    name ++ "<" ++ commaSeparated (displayAll (arg :: args)) ++ ">"
  | array element rank =>
    element.display ++ "[" ++ String.ofList (List.replicate (rank - 1) ',') ++ "]"
  | tuple elements => "(" ++ commaSeparated (displayElements elements) ++ ")"
  | nullable inner => inner.display ++ "?"
  | pointer inner => inner.display ++ "*"
  | functionPointer none parameters =>
    "delegate*<" ++ commaSeparated (displayAll parameters) ++ ">"
  | functionPointer (some convention) parameters =>
    "delegate* " ++ convention ++ "<" ++ commaSeparated (displayAll parameters) ++ ">"

/-- The type arguments of a name, or the parameters of a function pointer. -/
def displayAll : List TypeRef → List String
  | [] => []
  | t :: ts => t.display :: displayAll ts

/-- The elements of a tuple, each with its name if it has one. -/
def displayElements : List (TypeRef × Option String) → List String
  | [] => []
  | (t, none) :: rest => t.display :: displayElements rest
  | (t, some name) :: rest => (t.display ++ " " ++ name) :: displayElements rest

end

end TypeRef

end Companion
