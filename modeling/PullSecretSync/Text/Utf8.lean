/-!
# UTF-8

The bytes of a text, and the characters that bytes spell. Bytes that belong to no character are
kept one by one.
-/

namespace PullSecretSync.Text

/-- The bytes of a text. -/
def utf8 (text : String) : List UInt8 := text.toList.flatMap String.utf8EncodeChar

/-- A character of UTF-8 text, or a byte that belongs to none. -/
inductive Unit8 where
  | char (value : Char)
  | stray (byte : UInt8)
  deriving DecidableEq, Repr

/-- The number of bytes that a leading byte announces, and the smallest code point that needs so
many. -/
def announcedLength (lead : Nat) : Option (Nat × Nat) :=
  if lead < 0x80 then some (1, 0)
  else if 0xC0 ≤ lead ∧ lead < 0xE0 then some (2, 0x80)
  else if 0xE0 ≤ lead ∧ lead < 0xF0 then some (3, 0x800)
  else if 0xF0 ≤ lead ∧ lead < 0xF8 then some (4, 0x10000)
  else none

/-- The character at the front of some bytes, with its number of bytes. Overlong forms and
surrogates are none. -/
def frontChar? (bytes : List UInt8) : Option (Char × Nat) := do
  let lead ← bytes.head?
  let (length, least) ← announcedLength lead.toNat
  let tail := (bytes.drop 1).take (length - 1)
  if tail.length + 1 ≠ length ∨ !tail.all (fun byte => byte.toNat / 64 = 2) then none
  else
    let top := if length = 1 then lead.toNat else lead.toNat % Nat.pow 2 (7 - length)
    let code := tail.foldl (fun value byte => 64 * value + byte.toNat % 64) top
    if code < least ∨ 0x110000 ≤ code ∨ (0xD800 ≤ code ∧ code < 0xE000) then none
    else some (Char.ofNat code, length)

/-- Read bytes from the front, `fuel` at most. -/
def unitsUpTo : (fuel : Nat) → List UInt8 → List Unit8
  | 0, _ => []
  | _, [] => []
  | fuel + 1, byte :: rest =>
    match frontChar? (byte :: rest) with
    | some (c, length) => .char c :: unitsUpTo fuel (rest.drop (length - 1))
    | none => .stray byte :: unitsUpTo fuel rest

/-- The characters and stray bytes that bytes are made of. -/
def units (bytes : List UInt8) : List Unit8 := unitsUpTo bytes.length bytes

/-- The text of bytes that are UTF-8. -/
def ofBytes? (bytes : List UInt8) : Option String :=
  let chars := (units bytes).mapM fun
    | .char c => some c
    | .stray _ => none
  chars.map String.ofList

end PullSecretSync.Text
