import PullSecretSync.Binary

/-!
# Shortest decimals

A binary number is written with the fewest decimal digits that are nearest to it and to no other.
The digits are found on the grids of the multiples of powers of ten, from the coarsest grid on:
the first grid with a point in the interval of numbers that are rounded to the given one has the
fewest digits, and of its points the nearest is taken.
-/

namespace PullSecretSync.Binary

/-- The interval of magnitudes that are rounded to a number, in quarters of its last digit. Its
ends belong to it when the mantissa is even. -/
def interval (value : Binary) : Nat × Nat :=
  let quarters := 4 * value.mantissa
  let below := if value.mantissa = Nat.pow 2 52 ∧ leastExponent < value.exponent then 1 else 2
  (quarters - below, quarters + 2)

/-- The multiple of `10 ^ grid` in the interval that is nearest to the number. The number and the
ends of the interval are taken as fractions of the grid's unit. -/
def onGrid (value : Binary) (grid : Int) : Option Nat :=
  let (low, high) := value.interval
  let (binaryNum, binaryDen) := scale 2 1 1 (value.exponent - 2)
  let (num, den) := scale 10 binaryNum binaryDen (-grid)
  let inside (point : Nat) : Bool :=
    if value.mantissa % 2 = 0 then low * num ≤ point * den ∧ point * den ≤ high * num
    else low * num < point * den ∧ point * den < high * num
  let quarters := 4 * value.mantissa * num
  let floor := quarters / den
  match inside floor && floor != 0, inside (floor + 1) with
  | true, true => some (roundQuotient quarters den)
  | true, false => some floor
  | false, true => some (floor + 1)
  | false, false => none

/-- The exponents of the grids that are tried, from the coarsest on. -/
def grids : List Int := (List.range 660).map fun i => 320 - Int.ofNat i

/-- The digits of a number with their power of ten. -/
def shortest (value : Binary) : Nat × Int :=
  if value.mantissa = 0 then (0, 0)
  else
    (grids.findSome? fun grid => (value.onGrid grid).map fun digits => (digits, grid)).getD (0, 0)

/-- As many zeros as the number says. -/
def zeros (count : Int) : String := String.ofList (List.replicate count.toNat '0')

/-- Digits with a power of ten in positional notation, with at least one digit on each side of
the point. -/
def positional (digits : Nat) (exponent : Int) : String :=
  let text := toString digits
  let point : Int := text.length + exponent
  if 0 ≤ exponent then text ++ zeros exponent ++ ".0"
  else if 0 < point then
    String.ofList (text.toList.take point.toNat) ++ "." ++
      String.ofList (text.toList.drop point.toNat)
  else "0." ++ zeros (-point) ++ text

/-- Digits with a power of ten in exponent notation: one digit before the point, and a sign before
the exponent. -/
def scientific (digits : Nat) (exponent : Int) : String :=
  let text := (toString digits).toList
  let rest := text.drop 1
  let order := rest.length + exponent
  String.ofList (text.take 1) ++ (if rest.isEmpty then "" else "." ++ String.ofList rest) ++
    "e" ++ (if order < 0 then "-" else "+") ++ toString order.natAbs

/-- The text of a number: positional from `10 ^ -5` up to `10 ^ 16`, else with an exponent. -/
def text (value : Binary) : String :=
  let (digits, exponent) := value.shortest
  let point : Int := (toString digits).length + exponent
  (if value.negative then "-" else "") ++
    if digits = 0 ∨ (-5 < point ∧ point ≤ 16) then positional digits exponent
    else scientific digits exponent

end PullSecretSync.Binary
