import PullSecretSync.Json.Reader

/-!
# Reading numbers

An integer of 64 bits is read as it is. Of any other number as many digits count as 64 bits hold;
they and the power of ten are rounded to a binary number.
-/

namespace PullSecretSync.Json.Reader

/-- The value of decimal digits. -/
def digitsValue (digits : List Char) : Nat :=
  digits.foldl (fun value c => 10 * value + (c.toNat - '0'.toNat)) 0

/-- Digits and the power of ten that they are multiplied with. -/
structure Scaled where
  digits : Nat
  power : Int

namespace Scaled

/-- Put a digit behind the others, as long as sixty-four bits hold them. -/
def push? (digits : Nat) (c : Char) : Option Nat :=
  let value := 10 * digits + (c.toNat - '0'.toNat)
  if value < Nat.pow 2 64 then some value else none

/-- Whole digits: those that are too many count by their places alone. -/
def whole : (before : Nat) → List Char → Scaled
  | before, [] => ⟨before, 0⟩
  | before, c :: rest =>
    match push? before c with
    | some digits => whole digits rest
    | none => ⟨before, rest.length + 1⟩

/-- Put the digits of a fraction behind whole digits: those that are too many do not count. -/
def withFraction : Scaled → List Char → Scaled
  | before, [] => before
  | before, c :: rest =>
    match push? before.digits c with
    | some digits => withFraction ⟨digits, before.power - 1⟩ rest
    | none => before

end Scaled

/-- A number that is no integer, unless it is too large. -/
def real (negative : Bool) (value : Scaled) : Reader Json := do
  match Binary.ofDecimal negative value.digits value.power with
  | some binary => return .real binary
  | none => refuse .numberOutOfRange

/-- How many digits it takes until their value is out of the bounds of an exponent. -/
def excess? (digits : List Char) : Option Nat :=
  (List.range (digits.length + 1)).find? fun count =>
    Nat.pow 2 31 ≤ digitsValue (digits.take count)

/-- Read an exponent, which starts with the next character. -/
def exponent (negative : Bool) (value : Scaled) : Reader Json := do
  skip
  let sign ← peek
  if sign = some '+' ∨ sign = some '-' then skip
  match ← peek with
  | none => refuse .endInValue
  | some c => if !c.isDigit then refuseNext .invalidNumber
  let digits ← peekWhile Char.isDigit
  match excess? digits with
  | some count =>
    if value.digits ≠ 0 ∧ sign ≠ some '-' then
      let _ ← take count
      refuse .numberOutOfRange
    let _ ← take digits.length
    return .real (.zero negative)
  | none =>
    let _ ← take digits.length
    let power : Int := digitsValue digits
    let power := if sign = some '-' then -power else power
    real negative { value with power := value.power + power }

/-- Whether a character announces an exponent. -/
def isExponentMark (c : Char) : Bool := c = 'e' || c = 'E'

/-- Read a fraction, which starts with the next character. -/
def fraction (negative : Bool) (value : Scaled) : Reader Json := do
  skip
  let digits ← takeWhile Char.isDigit
  if digits.isEmpty then
    if (← peek).isNone then refuse .endInValue else refuseNext .invalidNumber
  let value := value.withFraction digits
  if (← peek).any isExponentMark then exponent negative value else real negative value

/-- Read a number after its sign. An integer beyond 64 bits is no integer here, and neither is the
negative zero. -/
def number (negative : Bool) : Reader Json := do
  match ← peek with
  | none => refuse .endInValue
  | some c =>
    if !c.isDigit then refuseNext .invalidNumber
    let digits ← if c = '0' then take 1 else takeWhile Char.isDigit
    if c = '0' && ((← peek).any Char.isDigit) then refuseNext .invalidNumber
    let value := Scaled.whole 0 digits
    let next ← peek
    if next = some '.' then fraction negative value
    else if next.any isExponentMark then exponent negative value
    else if value.power ≠ 0 then real negative value
    else if !negative then return .int value.digits
    else if value.digits = 0 ∨ Nat.pow 2 63 < value.digits then real negative value
    else return .int (-(value.digits : Int))

end PullSecretSync.Json.Reader
