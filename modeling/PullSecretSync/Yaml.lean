import PullSecretSync.Json.Compact

/-!
# YAML text

Documents in block style: a member or an item per line, two blanks deeper for every object that it
is in. Items stand as deep as the member they belong to. Texts stand plain unless they would be
read as something else.
-/

namespace PullSecretSync.Yaml

/-- The words that stand for a truth value or for nothing. -/
def reservedWords : List String :=
  ["true", "True", "TRUE", "false", "False", "FALSE", "null", "Null", "NULL", "~", ""]

/-- Whether a text without line breaks is read as itself when it stands plain: it starts with a
letter or a slash, does not end with a blank or a colon, and neither a comment nor a member starts
within it. -/
def isPlain (text : String) : Bool :=
  let chars := text.toList
  let follows (first second : Char) : Bool := (chars.zip (chars.drop 1)).contains (first, second)
  !reservedWords.contains text &&
    chars.head?.any (fun c => c.isAlpha || c = '/') &&
    chars.getLast?.all (fun c => c ≠ ' ' && c ≠ ':') &&
    !follows ':' ' ' && !follows ' ' '#'

/-- A text on one line, between apostrophes where it cannot stand plain. -/
def scalarText (text : String) : String :=
  if isPlain text then text
  else "'" ++ String.join (text.toList.map fun c => if c = '\'' then "''" else String.singleton c)
    ++ "'"

/-- Move lines to the right. -/
def indent (lines : List String) : List String := lines.map ("  " ++ ·)

/-- Put a sign before the first line and move the others to the right. -/
def mark : List String → List String
  | [] => []
  | first :: rest => ("- " ++ first) :: indent rest

/-- How the value of a member stands behind or below its name. -/
def underName (name : String) (value : Json) (lines : List String) : List String :=
  match value with
  | .arr (_ :: _) => (scalarText name ++ ":") :: lines
  | .obj (_ :: _) => (scalarText name ++ ":") :: indent lines
  | _ => [scalarText name ++ ": " ++ String.join lines]

mutual

/-- The lines of a document. -/
def lines : Json → List String
  | .str value => [scalarText value]
  | .arr [] => ["[]"]
  | .arr (item :: rest) => itemLines (item :: rest)
  | .obj [] => ["\x7b\x7d"]
  | .obj (member :: rest) => memberLines (member :: rest)
  | doc => [doc.compact]

/-- The lines of the items of an array. -/
def itemLines : List Json → List String
  | [] => []
  | item :: rest => mark (lines item) ++ itemLines rest

/-- The lines of the members of an object. -/
def memberLines : List (String × Json) → List String
  | [] => []
  | (name, value) :: rest => underName name value (lines value) ++ memberLines rest

end

/-- The text of a document. -/
def print (doc : Json) : String := String.join ((lines doc).map (· ++ "\n"))

end PullSecretSync.Yaml
