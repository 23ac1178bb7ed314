import Companion.Json.Basic
import Companion.Json.Number
import Companion.Text.Search

/-!
# Reading JSON

A strict reader: four kinds of blanks, no comments, no trailing commas, no text after the value.
The leaves come first (strings, literals), then the two containers.

`Json.read?` accepts everything that is JSON. A reader that keeps what it reads also has limits, on
the nesting of containers and the size of numbers, which `Json.isTractable` states.
-/

namespace Companion.Json

/-- The blanks of JSON. -/
def isBlank (c : Char) : Bool := c = ' ' || c = '\n' || c = '\t' || c = '\r'

/-- A text from its first character on that is no blank. -/
def skipBlanks (s : List Char) : List Char := s.dropWhile isBlank

/-! ## Strings -/

/-- One piece of a string literal: a character, or a code unit written as `\u` and four digits. -/
inductive Piece where
  | char (c : Char)
  | unit (code : Nat)
  deriving DecidableEq

/-- The value of a hexadecimal digit, in either case. -/
def hexDigit? (c : Char) : Option Nat :=
  if c.isDigit then some (c.toNat - '0'.toNat)
  else if 'a' ≤ c ∧ c ≤ 'f' then some (c.toNat - 'a'.toNat + 10)
  else if 'A' ≤ c ∧ c ≤ 'F' then some (c.toNat - 'A'.toNat + 10)
  else none

/-- The number that four hexadecimal digits spell. -/
def codeUnit? (a b c d : Char) : Option Nat := do
  return (((← hexDigit? a) * 16 + (← hexDigit? b)) * 16 + (← hexDigit? c)) * 16 + (← hexDigit? d)

/-- The character that a one-letter escape stands for. -/
def escape? : Char → Option Char
  | '"' => some '"'
  | '\\' => some '\\'
  | '/' => some '/'
  | 'b' => some '\x08'
  | 'f' => some '\x0c'
  | 'n' => some '\n'
  | 'r' => some '\r'
  | 't' => some '\t'
  | _ => none

/-- The pieces of a string literal up to its closing quote. A control character has to be
escaped. -/
def pieces? : List Char → Option (List Piece × List Char)
  | [] => none
  | '"' :: rest => some ([], rest)
  | '\\' :: 'u' :: a :: b :: c :: d :: rest => do
    let code ← codeUnit? a b c d
    let (pieces, rest) ← pieces? rest
    return (.unit code :: pieces, rest)
  | '\\' :: c :: rest => do
    let c ← escape? c
    let (pieces, rest) ← pieces? rest
    return (.char c :: pieces, rest)
  | c :: rest =>
    if c.toNat < 0x20 then none
    else do
      let (pieces, rest) ← pieces? rest
      return (.char c :: pieces, rest)

/-- The text of a string literal, in which surrogates have to come in pairs. -/
def textOf? : List Piece → Option (List Char)
  | [] => some []
  | .char c :: rest => (textOf? rest).map (c :: ·)
  | .unit high :: .unit low :: rest =>
    if 0xD800 ≤ high ∧ high ≤ 0xDBFF then
      if 0xDC00 ≤ low ∧ low ≤ 0xDFFF then
        (textOf? rest).map (Char.ofNat (0x10000 + (high - 0xD800) * 0x400 + (low - 0xDC00)) :: ·)
      else none
    else if 0xDC00 ≤ high ∧ high ≤ 0xDFFF then none
    else (textOf? (.unit low :: rest)).map (Char.ofNat high :: ·)
  | .unit code :: rest =>
    if 0xD800 ≤ code ∧ code ≤ 0xDFFF then none
    else (textOf? rest).map (Char.ofNat code :: ·)

/-! ## Values -/

/-- A literal word or a number. -/
def atom? (s : List Char) : Option (Json × List Char) :=
  match Text.after? "null".toList s with
  | some rest => some (.null, rest)
  | none =>
    match Text.after? "true".toList s with
    | some rest => some (.bool true, rest)
    | none =>
      match Text.after? "false".toList s with
      | some rest => some (.bool false, rest)
      | none => do
        let literal := s.takeWhile isNumeralChar
        let _ ← numeral? literal
        return (.number (String.ofList literal), s.dropWhile isNumeralChar)

/-- The object with these members. A key that stands for no text spoils all of it. -/
def ofMembers (members : List (Option String × Json)) : Json :=
  match members.mapM fun (key?, value) => key?.map (·, value) with
  | some members => .object members
  | none => .garbled

mutual

/-- A value and the text after it. -/
def value? : Nat → List Char → Option (Json × List Char)
  | 0, _ => none
  | fuel + 1, s =>
    match skipBlanks s with
    | '"' :: rest => do
      let (pieces, rest) ← pieces? rest
      match textOf? pieces with
      | some text => return (.string (String.ofList text), rest)
      | none => return (.garbled, rest)
    | '[' :: rest =>
      match skipBlanks rest with
      | ']' :: rest => some (.array [], rest)
      | rest => do
        let (items, rest) ← items? fuel rest
        return (.array items, rest)
    | '\x7b' :: rest =>
      match skipBlanks rest with
      | '\x7d' :: rest => some (.object [], rest)
      | rest => do
        let (members, rest) ← members? fuel rest
        return (ofMembers members, rest)
    | s => atom? s

/-- The items of an array, at least one, up to the closing bracket. -/
def items? : Nat → List Char → Option (List Json × List Char)
  | 0, _ => none
  | fuel + 1, s => do
    let (item, rest) ← value? fuel s
    match skipBlanks rest with
    | ',' :: rest =>
      let (items, rest) ← items? fuel rest
      return (item :: items, rest)
    | ']' :: rest => return ([item], rest)
    | _ => none

/-- The members of an object, at least one, up to the closing brace. -/
def members? : Nat → List Char → Option (List (Option String × Json) × List Char)
  | 0, _ => none
  | fuel + 1, s => do
    match skipBlanks s with
    | '"' :: rest =>
      let (pieces, rest) ← pieces? rest
      let key? := (textOf? pieces).map String.ofList
      match skipBlanks rest with
      | ':' :: rest =>
        let (value, rest) ← value? fuel rest
        match skipBlanks rest with
        | ',' :: rest =>
          let (members, rest) ← members? fuel rest
          return ((key?, value) :: members, rest)
        | '\x7d' :: rest => return ([(key?, value)], rest)
        | _ => none
      | _ => none
    | _ => none

end

/-- The value that a whole text spells. Each nested call uses up a character, or is the second of
two calls of which the first does, so twice the length bounds them. -/
def read? (text : String) : Option Json := do
  let s := text.toList
  let (value, rest) ← value? (2 * s.length + 1) s
  if (skipBlanks rest).isEmpty then some value else none

/-! ## Limits -/

/-- The number of containers that a reader follows into each other. -/
def depthLimit : Nat := 127

mutual

/-- Whether a value nests at most `depth` containers and every leaf in it stands for something. -/
def isTractableTo (depth : Nat) : Json → Bool
  | null | bool _ | string _ => true
  | number literal => (numeral? literal.toList).any Numeral.fitsDouble
  | garbled => false
  | array items => 0 < depth && itemsTractableTo (depth - 1) items
  | object members => 0 < depth && membersTractableTo (depth - 1) members

/-- The same for the items of an array. -/
def itemsTractableTo (depth : Nat) : List Json → Bool
  | [] => true
  | item :: items => item.isTractableTo depth && itemsTractableTo depth items

/-- The same for the members of an object. Any key stands for something. -/
def membersTractableTo (depth : Nat) : List (String × Json) → Bool
  | [] => true
  | (_, value) :: members => value.isTractableTo depth && membersTractableTo depth members

end

/-- Whether a value is within all limits. -/
def isTractable (value : Json) : Bool := value.isTractableTo depthLimit

end Companion.Json
