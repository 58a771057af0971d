/-!
# Binary numbers

A number that is no integer is held with 53 binary digits. The result of an operation is the
nearest such number; a half goes to the one whose last digit is even. Very small numbers have
fewer digits, and beyond `2 ^ 1024` there are none.
-/

namespace PullSecretSync

/-- The number `mantissa * 2 ^ exponent`, negated when `negative`. -/
structure Binary where
  negative : Bool
  mantissa : Nat
  exponent : Int
  deriving DecidableEq, Repr

namespace Binary

/-- The exponent of the smallest numbers. -/
def leastExponent : Int := -1074

/-- The exponent of the largest numbers. -/
def greatestExponent : Int := 971

/-- Nothing, with a sign. -/
def zero (negative : Bool) : Binary := ⟨negative, 0, leastExponent⟩

/-- The quotient rounded to the nearest whole number; a half goes to the even neighbour. -/
def roundQuotient (num den : Nat) : Nat :=
  let low := num / den
  let twice := 2 * (num % den)
  if twice < den then low
  else if den < twice then low + 1
  else if low % 2 = 0 then low
  else low + 1

/-- The numerator and denominator of `num / den * base ^ exponent`. -/
def scale (base num den : Nat) (exponent : Int) : Nat × Nat :=
  if 0 ≤ exponent then (num * base.pow exponent.toNat, den)
  else (num, den * base.pow (-exponent).toNat)

/-- The whole part of the binary logarithm of a positive quotient. -/
def log2Quotient (num den : Nat) : Int :=
  let guess : Int := (num.log2 : Int) - den.log2
  let (n, d) := scale 2 num den (-guess)
  if d ≤ n then guess else guess - 1

/-- The nearest number to a quotient; none when it is too large. -/
def nearest (negative : Bool) (num den : Nat) : Option Binary :=
  if num = 0 then some (zero negative)
  else
    let exponent := max (log2Quotient num den - 52) leastExponent
    let (n, d) := scale 2 num den (-exponent)
    let mantissa := roundQuotient n d
    let carried : Binary :=
      if mantissa = Nat.pow 2 53 then ⟨negative, Nat.pow 2 52, exponent + 1⟩
      else ⟨negative, mantissa, exponent⟩
    if greatestExponent < carried.exponent then none else some carried

/-- The numerator and denominator of the magnitude of a number. -/
def magnitude (value : Binary) : Nat × Nat := scale 2 value.mantissa 1 value.exponent

/-- The product of a number and a power of ten that is a number itself: the power is rounded, and
so is the product. -/
def timesTen (value : Binary) (power : Nat) : Option Binary := do
  let (num, den) := value.magnitude
  let (num', den') := (← nearest false (Nat.pow 10 power) 1).magnitude
  nearest value.negative (num * num') (den * den')

/-- The quotient of a number and a power of ten, rounded in the same way. -/
def overTen (value : Binary) (power : Nat) : Option Binary := do
  let (num, den) := value.magnitude
  let (num', den') := (← nearest false (Nat.pow 10 power) 1).magnitude
  nearest value.negative (num * den') (den * num')

/-- The exponent of the largest power of ten that is a number. -/
def greatestPower : Nat := 308

/-- Divide by a power of ten of any size, in steps that are as large as they can be. -/
def overTens (value : Binary) (power : Nat) : Option Binary :=
  if power ≤ greatestPower then value.overTen power
  else if value.mantissa = 0 then some value
  else do overTens (← value.overTen greatestPower) (power - greatestPower)
  termination_by power
  decreasing_by simp only [greatestPower] at *; omega

/-- The number that decimal digits with a power of ten stand for; none when it is too large. The
digits are rounded before the power is applied, so that not every result is the nearest one. -/
def ofDecimal (negative : Bool) (digits : Nat) (power : Int) : Option Binary := do
  let value ← nearest negative digits 1
  if power < 0 then value.overTens (-power).toNat
  else if power ≤ greatestPower then value.timesTen power.toNat
  else if value.mantissa = 0 then return value
  else none

end Binary

end PullSecretSync
