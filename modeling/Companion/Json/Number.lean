import Companion.Text.Decimal

/-!
# Numbers in JSON

Nothing here computes with numbers, so a number stays the literal that spells it. A reader that
keeps what it reads also has to hold its numbers in double precision. It gathers the leading digits
in a word of 64 bits, counts the other places in a power of ten, and multiplies the two; each of
the three is rounded on its own. So a number close to the largest double may be out of range, or in
range, against its exact value: `Numeral.fitsDouble` says which.
-/

namespace Companion.Json

/-! ## Literals -/

/-- A number literal taken apart: the digits before and after the point, and the exponent. -/
structure Numeral where
  whole : List Char
  fraction : List Char
  exponent : Int

/-- The characters that number literals are made of. -/
def isNumeralChar (c : Char) : Bool :=
  c.isDigit || c = '+' || c = '-' || c = '.' || c = 'e' || c = 'E'

/-- The exponent at the end of a literal, which may be missing. -/
def exponent? : List Char → Option Int
  | [] => some 0
  | e :: rest =>
    let (negative, digits) := match rest with
      | '-' :: digits => (true, digits)
      | '+' :: digits => (false, digits)
      | digits => (false, digits)
    if e = 'e' || e = 'E' then
      (Text.readDigits? digits).map fun value => if negative then -(value : Int) else value
    else none

/-- Takes a complete literal apart. The whole part has no superfluous zero in front, and a point
has digits after it. -/
def numeral? (literal : List Char) : Option Numeral := do
  let unsigned := match literal with
    | '-' :: rest => rest
    | rest => rest
  let whole := unsigned.takeWhile Char.isDigit
  let rest := unsigned.dropWhile Char.isDigit
  if whole.isEmpty || (whole.head? = some '0' && whole.length ≠ 1) then none
  else
    match rest with
    | '.' :: rest =>
      let fraction := rest.takeWhile Char.isDigit
      if fraction.isEmpty then none
      else return ⟨whole, fraction, ← exponent? (rest.dropWhile Char.isDigit)⟩
    | rest => return ⟨whole, [], ← exponent? rest⟩

/-! ## Double precision -/

/-- Takes in digits as long as the significand stays a word of 64 bits, and leaves the others. -/
def gather (significand : Nat) : List Char → Nat × List Char
  | [] => (significand, [])
  | digit :: digits =>
    let next := significand * 10 + Text.digitValue digit
    if next < 2 ^ 64 then gather next digits else (significand, digit :: digits)

/-- The leading digits of a literal and the power of ten that goes with them. A digit that is left
over counts as a place before the point, and not at all after it. -/
def Numeral.scaled (n : Numeral) : Nat × Int :=
  let (leading, places) := gather 0 n.whole
  let (significand, rest) := gather leading n.fraction
  (significand, n.exponent + places.length - (n.fraction.length - rest.length : Nat))

/-- The nearest number with 53 binary digits before its zeros. Of two that are equally near, the
one whose last digit is even. -/
def nearestDouble (n : Nat) : Nat :=
  let step := Nat.pow 2 (n.log2 - 52)
  let below := n / step
  let rest := 2 * (n % step)
  if step < rest || (step = rest && below % 2 = 1) then (below + 1) * step else below * step

/-- The least value that is nearer to `2 ^ 1024` than to any double. -/
def doubleBound : Nat := Nat.pow 2 1024 - Nat.pow 2 970

/-- The largest power of ten that is a double. -/
def tensLimit : Nat := 308

/-- Whether a number can be held in double precision. Small numbers always can. -/
def Numeral.fitsDouble (n : Numeral) : Bool :=
  match n.scaled with
  | (0, _) | (_, .negSucc _) => true
  | (significand, .ofNat exponent) =>
    exponent ≤ tensLimit &&
      nearestDouble significand * nearestDouble (Nat.pow 10 exponent) < doubleBound

end Companion.Json
