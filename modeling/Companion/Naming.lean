import Companion.Registry
import Companion.Text.Letter
import Companion.Text.Words

/-!
# Names

An identifier starts with a letter or an underscore and goes on with letters, numbers and
underscores. A reserved word is one only behind an `@`.

A property is initialised through a parameter with its name in lower camel case. When that is the
name of the property itself, or is empty or starts with a digit, the parameter is the property's
name with `_value` behind it. Names that were given out before are numbered, and reserved words
are escaped last. All of this is the same for any other way of writing names.

Output identifiers are unique within a batch. The first to ask for a name gets it; later ones get
it with a number behind it. Each name counts on its own, and never backwards.
-/

namespace Companion.Naming

/-! ## Identifiers -/

/-- The reserved words of C#. -/
def keywords : List String :=
  ["abstract", "as", "base", "bool", "break", "byte", "case", "catch", "char", "checked", "class",
    "const", "continue", "decimal", "default", "delegate", "do", "double", "else", "enum", "event",
    "explicit", "extern", "false", "finally", "fixed", "float", "for", "foreach", "goto", "if",
    "implicit", "in", "int", "interface", "internal", "is", "lock", "long", "namespace", "new",
    "null", "object", "operator", "out", "override", "params", "private", "protected", "public",
    "readonly", "ref", "return", "sbyte", "sealed", "short", "sizeof", "stackalloc", "static",
    "string", "struct", "switch", "this", "throw", "true", "try", "typeof", "uint", "ulong",
    "unchecked", "unsafe", "ushort", "using", "virtual", "void", "volatile", "while"]

/-- Whether a name is a reserved word. -/
def isKeyword (name : String) : Bool := keywords.contains name

/-- Whether the characters are those of an identifier, reserved or not. -/
def isWord : List Char → Bool
  | [] => false
  | c :: rest =>
    (Text.isAlphabetic c || c = '_') && rest.all fun c => Text.isAlphanumeric c || c = '_'

/-- Whether a member can have this name. -/
def isIdentifier (name : String) : Bool :=
  match name.toList with
  | '@' :: body => isWord body
  | body => isWord body && !isKeyword name

/-- A reserved word gets an `@` in front. -/
def escapeKeyword (name : String) : String := if isKeyword name then "@" ++ name else name

/-! ## Names of constructor parameters -/

/-- The `k`-th choice for a name: the name itself, then the name with a number behind it. -/
def numbered (name : String) : Nat → String
  | 0 => name
  | k + 1 => name ++ toString (k + 1)

/-- The first choice for a name that is not in use. Among the first `used.length + 1` choices,
which differ from each other, there is one. -/
def fresh (used : List String) (name : String) : String :=
  (((List.range (used.length + 1)).map (numbered name)).find? (!used.contains ·)).getD name

/-- The parameter's name before it is compared with the others, where `casing` is how names are to
be written. -/
def parameterStem (casing : List Char → List Char) (property : String) : String :=
  let cased := casing property.toList
  let usable := match cased with
    | [] => false
    | c :: _ => !c.isDigit
  let name := if usable then String.ofList cased else property
  if name = property then name ++ "_value" else name

/-- The names of the parameters for properties, where those in `used` are taken. -/
def parameterNamesFrom (casing : List Char → List Char) (used : List String) :
    List String → List String
  | [] => []
  | property :: properties =>
    let name := fresh used (parameterStem casing property)
    escapeKeyword name :: parameterNamesFrom casing (name :: used) properties

/-- The names of the parameters for properties, in lower camel case. -/
def parameterNames (properties : List String) : List String :=
  parameterNamesFrom Text.lowerCamel [] properties

/-! ## Unique names -/

/-- The identifiers that have been given out in a batch. -/
structure UniqueNames where
  taken : List String := []
  /-- The last number tried for a name. -/
  counters : Registry String Nat := {}

namespace UniqueNames

/-- The least number above `last` with which a name is still free. Among `taken.length + 1`
consecutive numbers there is one. -/
def nextNumber (taken : List String) (name : String) (last : Nat) : Nat :=
  (((List.range (taken.length + 1)).map (last + 1 + ·)).find?
    fun k => !taken.contains (name ++ toString k)).getD (last + 1)

/-- The identifier for a name, and the state after giving it out. -/
def assign (names : UniqueNames) (name : String) : String × UniqueNames :=
  if names.taken.contains name then
    let k := nextNumber names.taken name ((names.counters.get? name).getD 0)
    let identifier := name ++ toString k
    (identifier, ⟨identifier :: names.taken, names.counters.insert name k⟩)
  else (name, { names with taken := name :: names.taken })

/-- The identifiers for names that are asked for one after the other. -/
def assignAll (names : UniqueNames) : List String → List String
  | [] => []
  | name :: rest =>
    let (identifier, names) := names.assign name
    identifier :: names.assignAll rest

end UniqueNames

end Companion.Naming
