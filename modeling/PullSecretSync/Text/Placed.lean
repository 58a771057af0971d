import PullSecretSync.Text.Numeral
import PullSecretSync.Text.Quoted

/-!
# Messages with a place

A message about a text may end with the line and the column that it is about. Lines count from
one; a message on line zero has no place, and its column is not shown.
-/

namespace PullSecretSync

/-- A message and the place that it is about. -/
structure Placed where
  message : String
  line : Nat
  column : Nat
  deriving DecidableEq, Repr

namespace Placed

/-- What stands between a message and its line. -/
def lineMark : List Char := " at line ".toList

/-- What stands between a line and its column. -/
def columnMark : List Char := " column ".toList

/-- The text of a message. -/
def text (placed : Placed) : String :=
  if placed.line = 0 then placed.message
  else
    placed.message ++ " at line " ++ toString placed.line ++ " column " ++ toString placed.column

/-- The parts of a message with their names. -/
def listing (placed : Placed) : String :=
  "Error(" ++ Text.quoted placed.message ++ ", line: " ++ toString placed.line ++ ", column: " ++
    toString placed.column ++ ")"

/-- The number that some digits stand for. -/
def number? (digits : List Char) : Option Nat := (Numeral.read (Nat.pow 2 64) digits).toOption

/-- The line and the column that stand behind the mark of a line and reach to the end. -/
def place? (text : List Char) : Option (Nat × Nat) := do
  let line := text.takeWhile Char.isDigit
  let rest := text.drop line.length
  let column := rest.drop columnMark.length
  if rest.take columnMark.length = columnMark ∧ column.all Char.isDigit then
    return (← number? line, ← number? column)
  else none

/-- What stands before and behind the last mark of a line. -/
def splitLast : List Char → Option (List Char × List Char)
  | [] => none
  | c :: rest =>
    match splitLast rest with
    | some (before, behind) => some (c :: before, behind)
    | none =>
      if (c :: rest).take lineMark.length = lineMark then
        some ([], (c :: rest).drop lineMark.length)
      else none

/-- The message that a text is: a place at its end is taken off. -/
def ofText (text : String) : Placed :=
  let found := do
    let (before, behind) ← splitLast text.toList
    let (line, column) ← place? behind
    return (⟨String.ofList before, line, column⟩ : Placed)
  found.getD ⟨text, 0, 0⟩

end Placed

end PullSecretSync
