import PullSecretSync.Instant

/-!
# RFC 3339 times

Instants are written in UTC with the fewest of no, three, six or nine digits of a second. Reading
is lenient where it does no harm: blanks may stand around the numbers of the date and the time,
the two letters may be small, the date may be divided from the time by a blank, the offset may be
named UTC or lack its colon, and digits below a nanosecond are dropped.
-/

namespace PullSecretSync.Rfc3339

/-- Why a text is no time. -/
inductive Error where
  | invalid
  | tooShort
  | tooLong
  | outOfRange
  | impossible
  deriving DecidableEq, Repr

/-- The wording of a refusal. -/
def Error.message : Error → String
  | .invalid => "input contains invalid characters"
  | .tooShort => "premature end of input"
  | .tooLong => "trailing input"
  | .outOfRange => "input is out of range"
  | .impossible => "no possible date and time matching input"

/-- A number with leading zeros up to a width. -/
def padded (width : Nat) (value : Nat) : String :=
  let digits := toString value
  String.ofList (List.replicate (width - digits.length) '0') ++ digits

/-- A year: four digits, or a sign and more when it has no four. -/
def yearText (year : Int) : String :=
  if 0 ≤ year ∧ year ≤ 9999 then padded 4 year.toNat
  else (if year < 0 then "-" else "+") ++ padded 4 year.natAbs

/-- The fraction of a second, in the fewest groups of three digits that hold it. -/
def fractionText (nanos : Nat) : String :=
  if nanos = 0 then ""
  else if nanos % 1000000 = 0 then "." ++ padded 3 (nanos / 1000000)
  else if nanos % 1000 = 0 then "." ++ padded 6 (nanos / 1000)
  else "." ++ padded 9 nanos

/-- The text of an instant, given how the fraction of its second is written. -/
def formatWith (fraction : Nat → String) (time : Instant) : String :=
  let date := Day.ofNumber (time.seconds / 86400)
  let clock := (time.seconds % 86400).toNat
  let leap := time.nanos / 1000000000
  yearText date.year ++ "-" ++ padded 2 date.month ++ "-" ++ padded 2 date.day ++ "T" ++
    padded 2 (clock / 3600) ++ ":" ++ padded 2 (clock / 60 % 60) ++ ":" ++
    padded 2 (clock % 60 + leap) ++ fraction (time.nanos % 1000000000) ++ "Z"

/-- The text of an instant. -/
def format (time : Instant) : String := formatWith fractionText time

/-- The text of an instant to the whole second, without rounding up. -/
def formatSeconds (time : Instant) : String := formatWith (fun _ => "") time

/-- The characters that count as blank: White_Space of Unicode. -/
def isBlank (c : Char) : Bool :=
  let code := c.toNat
  (9 ≤ code && code ≤ 13) || code = 0x20 || code = 0x85 || code = 0xA0 || code = 0x1680 ||
    (0x2000 ≤ code && code ≤ 0x200A) || code = 0x2028 || code = 0x2029 || code = 0x202F ||
    code = 0x205F || code = 0x3000

/-- A reader takes characters from the front of the text. -/
abbrev Reader := StateT (List Char) (Except Error)

/-- Step over blanks. -/
def blanks : Reader Unit := modify (·.dropWhile isBlank)

/-- The value of decimal digits. -/
def digitsValue (digits : List Char) : Nat :=
  digits.foldl (fun value c => 10 * value + (c.toNat - '0'.toNat)) 0

/-- Read a number of at least one digit and at most so many. -/
def digits (limit : Nat) : Reader (List Char) := do
  match ← get with
  | [] => throw .tooShort
  | text =>
    let taken := (text.take limit).takeWhile Char.isDigit
    if taken.isEmpty then throw .invalid
    if Nat.pow 2 63 ≤ digitsValue taken then throw .outOfRange
    set (text.drop taken.length)
    return taken

/-- Read a sign that must stand here. -/
def literal (sign : Char) : Reader Unit := do
  match ← get with
  | [] => throw .tooShort
  | c :: rest => if c = sign then set rest else throw .invalid

/-- Read a number between two bounds, after blanks. -/
def bounded (limit low high : Nat) : Reader Nat := do
  blanks
  let value := digitsValue (← digits limit)
  if value < low ∨ high < value then throw .outOfRange
  return value

/-- Read a year, after blanks: a sign and any number of digits, or up to four digits. -/
def year : Reader Int := do
  blanks
  let text ← get
  let value : Int ← match text with
    | '-' :: rest => do
      set rest
      pure (-(digitsValue (← digits rest.length) : Int))
    | '+' :: rest => do
      set rest
      pure (digitsValue (← digits rest.length) : Int)
    | _ => pure (digitsValue (← digits 4) : Int)
  if value < -Int.pow 2 31 ∨ Int.pow 2 31 ≤ value then throw .outOfRange
  return value

/-- Read the fraction of a second, if there is one, in nanoseconds. -/
def fraction : Reader Nat := do
  match ← get with
  | '.' :: rest => do
    set rest
    let taken ← digits 9
    modify (·.dropWhile Char.isDigit)
    return digitsValue taken * Nat.pow 10 (9 - taken.length)
  | _ => return 0

/-- Read two digits, the first of which is below a bound. Fewer characters are too short. -/
def twoDigits (firstBound : Nat) (beyond : Error) : Reader Nat := do
  let text ← get
  if text.foldl (· + ·.utf8Size) 0 < 2 then throw .tooShort
  match text with
  | a :: b :: rest =>
    if a.isDigit && b.isDigit then
      if digitsValue [a] < firstBound then
        set rest
        return digitsValue [a, b]
      else throw beyond
    else throw .invalid
  | _ => throw .invalid

/-- Read the offset from UTC, in minutes. -/
def offset : Reader Int := do
  blanks
  let text ← get
  if (text.take 3).map Char.toUpper = ['U', 'T', 'C'] then
    set (text.drop 3)
    return 0
  match text with
  | [] => throw .tooShort
  | c :: rest =>
    set rest
    if c = 'Z' ∨ c = 'z' then return 0
    let negative ←
      if c = '+' then pure false
      else if c = '-' ∨ c.toNat = 0x2212 then pure true
      else throw .invalid
    let hours ← twoDigits 10 .invalid
    modify (·.dropWhile fun c => c = ':' || isBlank c)
    let minutes ← twoDigits 6 .outOfRange
    let total : Int := hours * 60 + minutes
    return if negative then -total else total

/-- Read a time and nothing after it but blanks. -/
def time : Reader Instant := do
  let year ← year
  blanks
  literal '-'
  let month ← bounded 2 1 12
  blanks
  literal '-'
  let day ← bounded 2 1 31
  match ← get with
  | [] => throw .tooShort
  | c :: rest => if c = 'T' ∨ c = 't' ∨ c = ' ' then set rest else throw .invalid
  let hour ← bounded 2 0 23
  blanks
  literal ':'
  let minute ← bounded 2 0 59
  blanks
  literal ':'
  let second ← bounded 2 0 60
  let nanos ← fraction
  let offset ← offset
  blanks
  if !(← get).isEmpty then throw .tooLong
  let date : Day := ⟨year, month, day⟩
  if !date.valid then throw .outOfRange
  if offset ≤ -1440 ∨ 1440 ≤ offset then throw .outOfRange
  let leap := second / 60
  let seconds := date.number * 86400 + (hour * 3600 + minute * 60 + (second - leap) : Nat) -
    offset * 60
  if !(Day.ofNumber (seconds / 86400)).valid then throw .impossible
  return ⟨seconds, nanos + leap * 1000000000⟩

/-- The instant of a text. -/
def parse (text : String) : Except Error Instant := (·.1) <$> time.run text.toList

end PullSecretSync.Rfc3339
