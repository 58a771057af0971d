import PullSecretSync.Text.Utf8

/-!
# Base64

The standard alphabet of RFC 4648 with its padding. Reading takes exactly the written forms: no
blanks, padding always there, and no bits beyond the last byte.
-/

namespace PullSecretSync.Base64

/-- Why a text is no base64. -/
inductive Error where
  | symbol (byte : UInt8) (offset : Nat)
  | lastSymbol (byte : UInt8) (offset : Nat)
  | length (symbols : Nat)
  | padding
  deriving DecidableEq, Repr

/-- The wording of a refusal. -/
def Error.message : Error → String
  | .symbol byte offset =>
    "Invalid symbol " ++ toString byte.toNat ++ ", offset " ++ toString offset ++ "."
  | .lastSymbol byte offset =>
    "Invalid last symbol " ++ toString byte.toNat ++ ", offset " ++ toString offset ++ "."
  | .length symbols => "Invalid input length: " ++ toString symbols
  | .padding => "Invalid padding"

/-- The padding sign. -/
def pad : UInt8 := 61

/-- The sign of a number below 64. -/
def symbol (value : Nat) : UInt8 :=
  if value < 26 then (65 + value).toUInt8
  else if value < 52 then (97 + (value - 26)).toUInt8
  else if value < 62 then (48 + (value - 52)).toUInt8
  else if value = 62 then 43
  else 47

/-- The number of a sign. -/
def value? (byte : UInt8) : Option Nat :=
  let code := byte.toNat
  if 65 ≤ code ∧ code ≤ 90 then some (code - 65)
  else if 97 ≤ code ∧ code ≤ 122 then some (code - 97 + 26)
  else if 48 ≤ code ∧ code ≤ 57 then some (code - 48 + 52)
  else if code = 43 then some 62
  else if code = 47 then some 63
  else none

/-- The signs of some bytes. -/
def encode : List UInt8 → List UInt8
  | [] => []
  | [a] => [symbol (a.toNat / 4), symbol (a.toNat % 4 * 16), pad, pad]
  | [a, b] =>
    [symbol (a.toNat / 4), symbol (a.toNat % 4 * 16 + b.toNat / 16),
      symbol (b.toNat % 16 * 4), pad]
  | a :: b :: c :: rest =>
    symbol (a.toNat / 4) :: symbol (a.toNat % 4 * 16 + b.toNat / 16) ::
      symbol (b.toNat % 16 * 4 + c.toNat / 64) :: symbol (c.toNat % 64) :: encode rest

/-- The number of the sign at an offset. -/
def valueAt (offset : Nat) (byte : UInt8) : Except Error Nat :=
  match value? byte with
  | some value => .ok value
  | none => .error (.symbol byte offset)

/-- Read the numbers of the last group up to its padding, which may start after two signs and ends
the group. The numbers come with the last sign. -/
def groupValues (offset : Nat) (place : Nat) : List UInt8 → Except Error (List (Nat × UInt8))
  | [] => .ok []
  | byte :: rest =>
    if byte = pad then
      if place < 2 then .error (.symbol byte (offset + place))
      else if rest.all (· = pad) then .ok []
      else .error (.symbol pad (offset + place))
    else do
      let value ← valueAt (offset + place) byte
      return (value, byte) :: (← groupValues offset (place + 1) rest)

/-- The bytes of the last group of at most four signs. -/
def lastGroup (offset : Nat) (group : List UInt8) : Except Error (List UInt8) := do
  let values ← groupValues offset 0 group
  match values with
  | [] => return []
  | [_] => throw (.length (offset + 1))
  | [(a, _), (b, last)] =>
    if group.length ≠ 4 then throw .padding
    if b % 16 ≠ 0 then throw (.lastSymbol last (offset + 1))
    return [(a * 4 + b / 16).toUInt8]
  | [(a, _), (b, _), (c, last)] =>
    if group.length ≠ 4 then throw .padding
    if c % 4 ≠ 0 then throw (.lastSymbol last (offset + 2))
    return [(a * 4 + b / 16).toUInt8, (b % 16 * 16 + c / 4).toUInt8]
  | (a, _) :: (b, _) :: (c, _) :: (d, _) :: _ =>
    return [(a * 4 + b / 16).toUInt8, (b % 16 * 16 + c / 4).toUInt8, (c % 4 * 64 + d).toUInt8]

/-- Read signs from an offset on. Every group but the last one has four signs without padding. -/
def decodeFrom (offset : Nat) : List UInt8 → Except Error (List UInt8)
  | a :: b :: c :: d :: next :: rest => do
    let a ← valueAt offset a
    let b ← valueAt (offset + 1) b
    let c ← valueAt (offset + 2) c
    let d ← valueAt (offset + 3) d
    let tail ← decodeFrom (offset + 4) (next :: rest)
    return (a * 4 + b / 16).toUInt8 :: (b % 16 * 16 + c / 4).toUInt8 ::
      (c % 4 * 64 + d).toUInt8 :: tail
  | group => lastGroup offset group

/-- The bytes of base64 text. A foreign last sign outside a group is named before all else. -/
def decode (text : List UInt8) : Except Error (List UInt8) :=
  match text.getLast? with
  | some last =>
    if text.length % 4 = 1 ∧ last ≠ pad ∧ (value? last).isNone then
      .error (.symbol last (text.length - 1))
    else decodeFrom 0 text
  | none => .ok []

/-- The base64 text of some bytes. -/
def text (bytes : List UInt8) : String :=
  String.ofList ((encode bytes).map fun byte => Char.ofNat byte.toNat)

/-- The bytes of a base64 text. -/
def read (text : String) : Except Error (List UInt8) := decode (Text.utf8 text)

end PullSecretSync.Base64
