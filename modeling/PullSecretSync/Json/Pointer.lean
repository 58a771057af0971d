import PullSecretSync.Json.Basic

/-!
# JSON pointers

A pointer names a part of a document by the steps that lead to it (RFC 6901).
-/

namespace PullSecretSync.Json

/-- Undo the two escapes of a step: ~1 stands for a slash and ~0 for a tilde. -/
def unescapeStep : List Char → List Char
  | '~' :: '1' :: rest => '/' :: unescapeStep rest
  | '~' :: '0' :: rest => '~' :: unescapeStep rest
  | c :: rest => c :: unescapeStep rest
  | [] => []

/-- The index that a step names: digits without a leading zero. -/
def stepIndex? (step : String) : Option Nat :=
  let digits := step.toList
  if digits.isEmpty || !digits.all Char.isDigit || (digits.head? = some '0' && digits ≠ ['0']) then
    none
  else some (digits.foldl (fun value c => 10 * value + (c.toNat - '0'.toNat)) 0)

/-- The part of a document that one step leads to. -/
def step? (doc : Json) (step : String) : Option Json :=
  match doc with
  | .obj members => lookup step members
  | .arr items => do items[← stepIndex? step]?
  | _ => none

/-- The part of a document that a pointer names. The empty pointer names the document; every
other pointer starts with a slash. -/
def pointer? (doc : Json) (pointer : String) : Option Json :=
  match (pointer.toList.splitOn '/') with
  | [[]] => some doc
  | [] :: steps =>
    steps.foldlM (fun part step => step? part (String.ofList (unescapeStep step))) doc
  | _ => none

end PullSecretSync.Json
