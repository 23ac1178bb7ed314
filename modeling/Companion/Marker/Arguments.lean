import Companion.Text.Decimal
import Companion.Text.Search

/-!
# Arguments of attributes

Arguments arrive as the tokens of the source, `"Name"` or `true` or `compareValues: true`. Reading
them cannot fail: while a list is being typed it is half finished most of the time, so whatever
cannot be read is replaced by a default.

A token `name: value` fills the parameter of that name wherever it stands. Any other token fills
the parameter at its own position, a name that no parameter has being of no consequence.
-/

namespace Companion

namespace Argument

/-- The value behind the colon of a named token, without blanks, tabs and quotes around it. -/
def bare (value : List Char) : List Char :=
  Text.trimBy (fun c => c = ' ' || c = '"' || c = '\t') value

/-- The name and the value of a token with a colon. -/
def split? (token : List Char) : Option (List Char × List Char) := Text.cut? [':'] token

/-- The text of a string token: what its quotes enclose, or the value of a named token. -/
def text? (token : String) : Option String :=
  match Text.trim token.toList with
  | '"' :: rest => some (String.ofList ((Text.before? ['"'] rest).getD rest))
  | trimmed => (split? trimmed).map fun (_, value) => String.ofList (bare value)

/-- The text of a literal that is not a string. -/
def literal? (token : String) : Option (List Char) :=
  match Text.trim token.toList with
  | [] => none
  | '"' :: _ => none
  | trimmed =>
    match split? trimmed with
    | some (_, value) => some (bare value)
    | none => some trimmed

/-- A truth value in any mixture of upper and lower case. -/
def flag? (literal : List Char) : Option Bool :=
  let folded := literal.map Char.toLower
  if folded = "true".toList then some true
  else if folded = "false".toList then some false
  else none

/-- The name of a named token. -/
def name? (token : String) : Option String :=
  match Text.trim token.toList with
  | '"' :: _ => none
  | trimmed =>
    match split? trimmed with
    | some (name, _) =>
      let name := Text.trim name
      if name.isEmpty then none else some (String.ofList name)
    | none => none

/-- The string at a position, or a default. -/
def textAt (args : List String) (index : Nat) (default : String) : String :=
  (args[index]?.bind text?).getD default

/-- The truth value at a position, or a default. -/
def flagAt (args : List String) (index : Nat) (default : Bool) : Bool :=
  ((args[index]?.bind literal?).bind flag?).getD default

/-- The integer of 64 bits at a position, or a default. -/
def intAt (args : List String) (index : Nat) (default : Int) : Int :=
  ((args[index]?.bind literal?).bind Text.readSigned?).getD default

/-- The position of the token that fills a parameter, given by its place in the parameter list. A
token that names another parameter does not fill the one at its position. -/
def position? (parameters args : List String) (slot : Nat) : Option Nat := do
  let name ← parameters[slot]?
  match args.findIdx? fun token => name? token = some name with
  | some index => return index
  | none =>
    let token ← args[slot]?
    match name? token with
    | some other => if parameters.contains other then none else return slot
    | none => return slot

/-- The string that fills a parameter. -/
def textFor (parameters args : List String) (slot : Nat) (default : String) : String :=
  match position? parameters args slot with
  | some index => textAt args index default
  | none => default

/-- The truth value that fills a parameter. -/
def flagFor (parameters args : List String) (slot : Nat) (default : Bool) : Bool :=
  match position? parameters args slot with
  | some index => flagAt args index default
  | none => default

end Argument

/-- What the marker of an observable property says. -/
structure PropertyArguments where
  /-- The name of the property to generate. -/
  name : String := ""
  /-- Declare a hook for the property, and call it and the global hook. -/
  extraNotify : Bool := false
  /-- Do nothing when the value does not change. -/
  compareValues : Bool := false
  deriving DecidableEq, Repr

namespace PropertyArguments

/-- The names of the parameters, in order. -/
def parameters : List String := ["name", "extraNotify", "compareValues"]

/-- Only a list without any token cannot be read. -/
def parse? (args : List String) : Option PropertyArguments :=
  if args.isEmpty then none
  else some {
    name := Argument.textFor parameters args 0 ""
    extraNotify := Argument.flagFor parameters args 1 false
    compareValues := Argument.flagFor parameters args 2 false }

end PropertyArguments

/-- What the marker of a concrete type says. -/
structure ConcreteArguments where
  /-- The full name of the interface whose properties are taken over. -/
  interfaceName : String := ""
  initializingConstructor : Bool := true
  privateSetters : Bool := false
  implementInterface : Bool := false
  nullableReferences : Bool := false
  nullableValues : Bool := false
  deriving DecidableEq, Repr

namespace ConcreteArguments

/-- The names of the parameters, in order. -/
def parameters : List String :=
  ["interfaceFullTypeName", "generateInitializingConstructor", "makeSettersPrivate",
    "implementInterface", "makeReferenceTypesNullable", "makeValueTypesNullable"]

/-- Only a list without any token cannot be read. -/
def parse? (args : List String) : Option ConcreteArguments :=
  if args.isEmpty then none
  else some {
    interfaceName := Argument.textFor parameters args 0 ""
    initializingConstructor := Argument.flagFor parameters args 1 true
    privateSetters := Argument.flagFor parameters args 2 false
    implementInterface := Argument.flagFor parameters args 3 false
    nullableReferences := Argument.flagFor parameters args 4 false
    nullableValues := Argument.flagFor parameters args 5 false }

end ConcreteArguments

end Companion
