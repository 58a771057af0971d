/-!
# Decimal numerals

Natural numbers below a bound, written with decimal digits and at most one leading plus sign.
-/

namespace PullSecretSync

/-- Why a text is no numeral. -/
inductive NumeralError where
  | empty
  | notDigit
  | tooLarge
  deriving DecidableEq, Repr

/-- The wording of a refusal. -/
def NumeralError.message : NumeralError → String
  | .empty => "cannot parse integer from empty string"
  | .notDigit => "invalid digit found in string"
  | .tooLarge => "number too large to fit in target type"

namespace Numeral

/-- The value of a decimal digit. -/
def digit? (c : Char) : Option Nat :=
  if c.isDigit then some (c.toNat - '0'.toNat) else none

/-- Read digits after some that have the given value, as long as the value stays below the
bound. -/
def readDigits (bound : Nat) (value : Nat) : List Char → Except NumeralError Nat
  | [] => .ok value
  | c :: rest =>
    match digit? c with
    | none => .error .notDigit
    | some digit =>
      let value := 10 * value + digit
      if value < bound then readDigits bound value rest else .error .tooLarge

/-- Read a numeral below a positive bound. -/
def read (bound : Nat) (text : List Char) : Except NumeralError Nat :=
  match text with
  | [] => .error .empty
  | ['+'] => .error .notDigit
  | '+' :: digits => readDigits bound 0 digits
  | digits => readDigits bound 0 digits

end Numeral

end PullSecretSync
