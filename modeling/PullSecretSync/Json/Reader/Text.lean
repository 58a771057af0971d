import PullSecretSync.Json.Reader

/-!
# Reading strings

A string is read to its characters, with its escapes undone.
-/

namespace PullSecretSync.Json.Reader

/-- The value of a hexadecimal digit. -/
def hexValue? (c : Char) : Option Nat :=
  if '0' ≤ c ∧ c ≤ '9' then some (c.toNat - '0'.toNat)
  else if 'a' ≤ c ∧ c ≤ 'f' then some (c.toNat - 'a'.toNat + 10)
  else if 'A' ≤ c ∧ c ≤ 'F' then some (c.toNat - 'A'.toNat + 10)
  else none

/-- Read the four hexadecimal digits of an escape. -/
def hexUnit : Reader Nat := do
  let front := (← get).rest.take 4
  if front.foldl (· + ·.utf8Size) 0 < 4 then
    let _ ← take 4
    refuse .endInString
  match front.mapM hexValue? with
  | none => refuseAfter 4 .invalidEscape
  | some digits =>
    let _ ← take 4
    return digits.foldl (fun unit digit => 16 * unit + digit) 0

/-- Read an escape after its letter u: one unit, or two that form a pair of surrogates. -/
def unicodeEscape : Reader Char := do
  let high ← hexUnit
  if 0xDC00 ≤ high ∧ high ≤ 0xDFFF then refuse .loneSurrogate
  if high < 0xD800 ∨ 0xDBFF < high then return Char.ofNat high
  for mark in ['\\', 'u'] do
    match ← peek with
    | none => refuse .endInString
    | some c => if c = mark then skip else refuseNext .endOfHexEscape
  let low ← hexUnit
  if low < 0xDC00 ∨ 0xDFFF < low then refuse .loneSurrogate
  return Char.ofNat (0x10000 + (high - 0xD800) * 0x400 + (low - 0xDC00))

/-- The character that a letter after a reverse solidus stands for. -/
def shortEscape? (letter : Char) : Option Char :=
  match letter with
  | '"' => some '"'
  | '\\' => some '\\'
  | '/' => some '/'
  | 'b' => some (Char.ofNat 8)
  | 'f' => some (Char.ofNat 12)
  | 'n' => some '\n'
  | 'r' => some '\r'
  | 't' => some '\t'
  | _ => none

/-- Read an escape after its reverse solidus, with a reader for what follows the letter u. -/
def escapeBy {α : Type} (short : Char → α) (unicode : Reader α) : Reader α := do
  match ← peek with
  | none => refuse .endInString
  | some 'u' => do
    skip
    unicode
  | some letter =>
    match shortEscape? letter with
    | some c => do
      skip
      return short c
    | none => refuseNext .invalidEscape

/-- Read an escape after its reverse solidus. -/
def escape : Reader Char := escapeBy id unicodeEscape

/-- Read the rest of a string; `fuel` bounds its characters, which `read` holds in reverse. -/
def stringRest : (fuel : Nat) → (read : List Char) → Reader String
  | 0, _ => refuse .endInString
  | fuel + 1, read => do
    match ← peek with
    | none => refuse .endInString
    | some '"' => do
      skip
      return String.ofList read.reverse
    | some '\\' => do
      skip
      stringRest fuel ((← escape) :: read)
    | some c => do
      skip
      if c.toNat < 32 then refuse .controlCharacter else stringRest fuel (c :: read)

/-- Read a string, which starts with the next character. -/
def string : Reader String := do
  skip
  stringRest ((← get).rest.length + 1) []

end PullSecretSync.Json.Reader
