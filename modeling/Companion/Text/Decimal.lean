/-!
# Decimal numbers

Reading is strict: digits only, at least one of them, and the value has to fit its width.
-/

namespace Companion.Text

/-- The value of an ASCII digit. -/
def digitValue (digit : Char) : Nat := digit.toNat - '0'.toNat

/-- The value of a run of ASCII digits. -/
def digitsValue (digits : List Char) : Nat :=
  digits.foldl (fun value digit => value * 10 + digitValue digit) 0

/-- The value of a text that is a non-empty run of ASCII digits. -/
def readDigits? (s : List Char) : Option Nat :=
  if !s.isEmpty && s.all Char.isDigit then some (digitsValue s) else none

/-- An unsigned number of 64 bits, with or without a plus sign. -/
def readUnsigned? (s : List Char) : Option Nat := do
  let digits := match s with
    | '+' :: rest => rest
    | _ => s
  let value ← readDigits? digits
  if value < Nat.pow 2 64 then some value else none

/-- A signed number of 64 bits, with an optional sign. -/
def readSigned? (s : List Char) : Option Int := do
  match s with
  | '-' :: digits =>
    let value ← readDigits? digits
    if value ≤ Nat.pow 2 63 then some (-(value : Int)) else none
  | '+' :: digits =>
    let value ← readDigits? digits
    if value < Nat.pow 2 63 then some (value : Int) else none
  | digits =>
    let value ← readDigits? digits
    if value < Nat.pow 2 63 then some (value : Int) else none

end Companion.Text
