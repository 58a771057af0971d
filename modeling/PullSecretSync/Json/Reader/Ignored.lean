import PullSecretSync.Json.Reader.Value

/-!
# Reading over values

The value of an unknown member is read over. Its form is checked, but not what its strings and
numbers stand for, nor how deep it nests.
-/

namespace PullSecretSync.Json.Reader

/-- Read over the rest of a string; `fuel` bounds its characters. -/
def ignoreStringRest : (fuel : Nat) → Reader Unit
  | 0 => refuse .endInString
  | fuel + 1 => do
    match ← peek with
    | none => refuse .endInString
    | some '"' => skip
    | some '\\' => do
      skip
      escapeBy (fun _ => ()) (discard hexUnit)
      ignoreStringRest fuel
    | some c => do
      if c.toNat < 32 then refuse .controlCharacter
      skip
      ignoreStringRest fuel

/-- Read over a string, which starts with the next character. -/
def ignoreString : Reader Unit := do
  skip
  ignoreStringRest ((← get).rest.length + 1)

/-- Read over a digit and those behind it. -/
def ignoreDigits : Reader Unit := do
  if !(← peek).any Char.isDigit then refuseNext .invalidNumber
  let _ ← takeWhile Char.isDigit

/-- Read over an exponent, if there is one. -/
def ignoreExponent : Reader Unit := do
  if (← peek).any isExponentMark then
    skip
    let sign ← peek
    if sign = some '+' ∨ sign = some '-' then skip
    ignoreDigits

/-- Read over a number after its sign. -/
def ignoreNumber : Reader Unit := do
  if (← peek) = some '0' then
    skip
    if (← peek).any Char.isDigit then refuseNext .invalidNumber
  else ignoreDigits
  if (← peek) = some '.' then
    skip
    ignoreDigits
  ignoreExponent

/-- Read over a value; `fuel` bounds how deep it nests. -/
def ignoreUpTo : (fuel : Nat) → Reader Unit
  | 0 => refuse .endInValue
  | fuel + 1 => do
    match ← peekToken with
    | some '[' => do
      skip
      fold (more ']' .expectedListSeparator .endInList) (fun _ => ignoreUpTo fuel) ()
      skip
    | some '\x7b' => do
      skip
      fold (more '\x7d' .expectedObjectSeparator .endInObject) (fun _ => do
        match ← peekToken with
        | none => refuseNext .endInObject
        | some c => if c = '"' then ignoreString else refuseNext .keyNotString
        colon
        ignoreUpTo fuel) ()
      skip
    | some '"' => ignoreString
    | some '-' => do
      skip
      ignoreNumber
    | some c => if c.isDigit then ignoreNumber else discard scalar
    | none => refuseNext .endInValue

/-- Read over a value. -/
def ignore : Reader Unit := do
  ignoreUpTo ((← get).rest.length + 1)

end PullSecretSync.Json.Reader
