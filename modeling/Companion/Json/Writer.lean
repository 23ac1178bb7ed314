import Companion.Json.Basic

/-!
# Writing JSON

Containers are spread over lines, two blanks deeper at each level; an empty container stays on its
line. In a string only quotes, backslashes and control characters are escaped.
-/

namespace Companion.Json

/-- The last hexadecimal digit of a number, in lower case. -/
def hexDigit (n : Nat) : Char := (Nat.toDigits 16 (n % 16)).headD '0'

/-- A character inside a string literal. -/
def escaped (c : Char) : List Char :=
  if c = '"' then ['\\', '"']
  else if c = '\\' then ['\\', '\\']
  else if c = '\x08' then ['\\', 'b']
  else if c = '\x0c' then ['\\', 'f']
  else if c = '\n' then ['\\', 'n']
  else if c = '\r' then ['\\', 'r']
  else if c = '\t' then ['\\', 't']
  else if c.toNat < 0x20 then ['\\', 'u', '0', '0', hexDigit (c.toNat / 16), hexDigit c.toNat]
  else [c]

/-- The string literal of a text. -/
def literal (text : String) : List Char := '"' :: text.toList.flatMap escaped ++ ['"']

/-- A new line inside `depth` containers. -/
def lineBreak (depth : Nat) : List Char := '\n' :: List.replicate (2 * depth) ' '

mutual

/-- The text of a value inside `depth` containers. -/
def renderAt (depth : Nat) : Json → List Char
  | null => "null".toList
  | bool true => "true".toList
  | bool false => "false".toList
  | number literal => literal.toList
  | string text => literal text
  | garbled => "null".toList
  | array [] => "[]".toList
  | array (item :: items) =>
    '[' :: lineBreak (depth + 1) ++ item.renderAt (depth + 1) ++ renderItems (depth + 1) items ++
      lineBreak depth ++ [']']
  | object [] => ['\x7b', '\x7d']
  | object ((key, value) :: members) =>
    '\x7b' :: lineBreak (depth + 1) ++ literal key ++ ": ".toList ++ value.renderAt (depth + 1) ++
      renderMembers (depth + 1) members ++ lineBreak depth ++ ['\x7d']

/-- The items after the first. -/
def renderItems (depth : Nat) : List Json → List Char
  | [] => []
  | item :: items => ',' :: lineBreak depth ++ item.renderAt depth ++ renderItems depth items

/-- The members after the first. -/
def renderMembers (depth : Nat) : List (String × Json) → List Char
  | [] => []
  | (key, value) :: members =>
    ',' :: lineBreak depth ++ literal key ++ ": ".toList ++ value.renderAt depth ++
      renderMembers depth members

end

/-- The text of a value. -/
def render (value : Json) : String := String.ofList (value.renderAt 0)

end Companion.Json
