/-!
# JSON values and records

An object keeps its members in the order of the text, repeated keys included: whether a repetition
matters is for the reader of the object to say. A number is kept as it is written, since nothing
here computes with numbers.

A record with known fields has two spellings: an object, in which unknown members are ignored and a
known one may not be repeated, and an array with the values of the fields in order, from which
values may be missing at the end. Both are brought into one form, a list of the fields that are
given, and a field that is not given takes its default if it has one.
-/

namespace Companion

/-- A JSON value. -/
inductive Json where
  | null
  | bool (value : Bool)
  | number (literal : String)
  | string (text : String)
  /-- A string literal with half of a surrogate pair, which stands for no text, or an object with
  such a key. Only a value that nobody looks at may be one. -/
  | garbled
  | array (items : List Json)
  | object (members : List (String × Json))
  deriving Inhabited

namespace Json

/-! ## Records -/

/-- The fields of a record that are given, by name. -/
abbrev Fields := List (String × Json)

/-- Whether no name occurs twice. -/
def distinct : List String → Bool
  | [] => true
  | name :: names => !names.contains name && distinct names

/-- The given fields of a record, whose field names are `names` in order. -/
def fields? (names : List String) : Json → Option Fields
  | object members =>
    let known := members.filter fun m => names.contains m.1
    if distinct (known.map Prod.fst) then some known else none
  | array items => if items.length ≤ names.length then some (names.zip items) else none
  | _ => none

/-- A field that has to be given. -/
def Fields.required {α : Type} (fields : Fields) (name : String) (decode : Json → Option α) :
    Option α :=
  (fields.lookup name).bind decode

/-- A field that may be left out, but is read like any other when it is given. -/
def Fields.optional {α : Type} (fields : Fields) (name : String) (default : α)
    (decode : Json → Option α) : Option α :=
  match fields.lookup name with
  | some value => decode value
  | none => some default

/-! ## Readers of single values -/

/-- A text. -/
def text? : Json → Option String
  | string text => some text
  | _ => none

/-- A truth value. -/
def flag? : Json → Option Bool
  | bool value => some value
  | _ => none

/-- A text that may be absent, in which case it is written as `null`. -/
def textOrNull? : Json → Option (Option String)
  | null => some none
  | string text => some (some text)
  | _ => none

/-- A list, every item of which can be read. -/
def list? {α : Type} (decode : Json → Option α) : Json → Option (List α)
  | array items => items.mapM decode
  | _ => none

/-- The name of a case without content, spelled as a string or as an object whose only member has
that name and no value. -/
def case? : Json → Option String
  | string name => some name
  | object [(name, null)] => some name
  | _ => none

/-! ## Writers of single values -/

/-- Writes a text. -/
def ofText (text : String) : Json := string text

/-- Writes a text that may be absent. -/
def ofTextOrNull : Option String → Json
  | none => null
  | some text => string text

/-- Writes a list. -/
def ofList {α : Type} (encode : α → Json) (items : List α) : Json := array (items.map encode)

end Json

end Companion
