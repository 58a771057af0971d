import PullSecretSync.Json.Fault

/-!
# Reading JSON text

A reader takes characters from the front of a text or refuses the text at a place. Lines count
from one, and columns count the bytes of a line. A fault is placed behind the last character that
was read or, when the next one was only looked at, behind its first byte.
-/

namespace PullSecretSync.Json

/-- The text that is still to be read, the place that was reached, and how deep values may still
nest. -/
structure Cursor where
  rest : List Char
  line : Nat
  column : Nat
  room : Nat

/-- A reader of values from the front of a text. -/
abbrev Reader := StateT Cursor (Except TextError)

namespace Reader

/-- Refuse the text at the place that was reached. -/
def refuseFor {α : Type} (fault : TextFault) : Reader α := do
  let cursor ← get
  throw ⟨fault, cursor.line, cursor.column⟩

/-- Refuse the text behind the last character read. -/
def refuse {α : Type} (fault : SyntaxFault) : Reader α := refuseFor (.malformed fault)

/-- Refuse the value that was read, as one that is not wanted. -/
def refuseValue {α : Type} (error : DecodeError) : Reader α := refuseFor (.unfit error)

/-- The place behind some bytes of a text, which may end within a character. -/
def placeAfter (line column : Nat) : (bytes : Nat) → List Char → Nat × Nat
  | _, [] => (line, column)
  | bytes, c :: rest =>
    if bytes < c.utf8Size then (line, column + bytes)
    else if c = '\n' then placeAfter (line + 1) 0 (bytes - 1) rest
    else placeAfter line (column + c.utf8Size) (bytes - c.utf8Size) rest

/-- Refuse the text behind some bytes that come next. -/
def refuseAfter {α : Type} (bytes : Nat) (fault : SyntaxFault) : Reader α := do
  let cursor ← get
  let (line, column) := placeAfter cursor.line cursor.column bytes cursor.rest
  throw ⟨.malformed fault, line, column⟩

/-- Refuse the text at the character that comes next. -/
def refuseNext {α : Type} (fault : SyntaxFault) : Reader α := refuseAfter 1 fault

/-- The next character, which stays unread. -/
def peek : Reader (Option Char) := do
  return (← get).rest.head?

/-- Step over one character. -/
def step (cursor : Cursor) : Cursor :=
  match cursor.rest with
  | [] => cursor
  | c :: rest =>
    if c = '\n' then { cursor with rest, line := cursor.line + 1, column := 0 }
    else { cursor with rest, column := cursor.column + c.utf8Size }

/-- Step over the next character. -/
def skip : Reader Unit := modify step

/-- Read as many characters, if there are so many. -/
def take (count : Nat) : Reader (List Char) := do
  let taken := (← get).rest.take count
  modify fun cursor => taken.foldl (fun reached _ => step reached) cursor
  return taken

/-- The characters at the front that have a property, which stay unread. -/
def peekWhile (property : Char → Bool) : Reader (List Char) := do
  return (← get).rest.takeWhile property

/-- Read the characters at the front that have a property. -/
def takeWhile (property : Char → Bool) : Reader (List Char) := do
  take (← peekWhile property).length

/-- The four characters that may stand between tokens. -/
def isBlank (c : Char) : Bool := c = ' ' || c = '\n' || c = '\t' || c = '\r'

/-- The first character after blanks, which stays unread. -/
def peekToken : Reader (Option Char) := do
  let _ ← takeWhile isBlank
  peek

/-- Read the rest of a fixed word. -/
def word (letters : List Char) : Reader Unit := do
  for letter in letters do
    match ← peek with
    | none => refuse .endInValue
    | some c => if c = letter then skip else refuseNext .expectedIdentifier

/-- Read the word for nothing. -/
def null : Reader Unit := do
  skip
  word ['u', 'l', 'l']

end Reader

end PullSecretSync.Json
