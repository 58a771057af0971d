import PullSecretSync.Binary.Shortest
import PullSecretSync.Instant.Rfc3339
import PullSecretSync.Json.Basic
import PullSecretSync.Text.Base64
import PullSecretSync.Text.Placed

/-!
# Faults of documents

A text may be no document at all, and a document may be no value of the type that is wanted. The
first kind of fault has a place in the text; the second has one if the document was read from a
text.
-/

namespace PullSecretSync

namespace Json

/-- What is wrong with a text that is no document. -/
inductive SyntaxFault where
  | endInList
  | endInObject
  | endInString
  | endInValue
  | expectedColon
  | expectedListSeparator
  | expectedObjectSeparator
  | expectedIdentifier
  | expectedValue
  | invalidEscape
  | invalidNumber
  | numberOutOfRange
  | controlCharacter
  | keyNotString
  | loneSurrogate
  | trailingComma
  | trailingCharacters
  | endOfHexEscape
  | tooDeep
  deriving DecidableEq, Repr

/-- The wording of a fault. -/
def SyntaxFault.message : SyntaxFault → String
  | .endInList => "EOF while parsing a list"
  | .endInObject => "EOF while parsing an object"
  | .endInString => "EOF while parsing a string"
  | .endInValue => "EOF while parsing a value"
  | .expectedColon => "expected `:`"
  | .expectedListSeparator => "expected `,` or `]`"
  | .expectedObjectSeparator => "expected `,` or `\x7d`"
  | .expectedIdentifier => "expected ident"
  | .expectedValue => "expected value"
  | .invalidEscape => "invalid escape"
  | .invalidNumber => "invalid number"
  | .numberOutOfRange => "number out of range"
  | .controlCharacter => "control character (\\u0000-\\u001F) found while parsing a string"
  | .keyNotString => "key must be a string"
  | .loneSurrogate => "lone leading surrogate in hex escape"
  | .trailingComma => "trailing comma"
  | .trailingCharacters => "trailing characters"
  | .endOfHexEscape => "unexpected end of hex escape"
  | .tooDeep => "recursion limit exceeded"

end Json

/-- What stands in a document where something else was wanted. -/
inductive Found where
  | null
  | bool (value : Bool)
  | int (value : Int)
  | real (value : Binary)
  | str (value : String)
  | sequence
  | map
  deriving DecidableEq, Repr

namespace Found

/-- What a document shows of itself in a message. -/
def ofJson : Json → Found
  | .null => .null
  | .bool value => .bool value
  | .int value => .int value
  | .real value => .real value
  | .str value => .str value
  | .arr _ => .sequence
  | .obj _ => .map

/-- How a message names what was found. -/
def text : Found → String
  | .null => "null"
  | .bool value => "boolean `" ++ toString value ++ "`"
  | .int value => "integer `" ++ toString value ++ "`"
  | .real value => "floating point `" ++ value.text ++ "`"
  | .str value => "string " ++ Text.quoted value
  | .sequence => "sequence"
  | .map => "map"

end Found

/-- Why a document is no value of a type. -/
inductive DecodeError where
  | wrongType (found : Found) (expected : String)
  | wrongValue (found : Found) (expected : String)
  | wrongLength (length : Nat) (expected : String)
  | missingField (name : String)
  | duplicateField (name : String)
  | unknownVariant (found : String) (known : List String)
  | time (error : Rfc3339.Error)
  | base64 (error : Base64.Error)
  deriving DecidableEq, Repr

namespace DecodeError

/-- How the known variants are listed. -/
def variantsText (known : List String) : String :=
  let marked := known.map fun name => "`" ++ name ++ "`"
  match marked with
  | [only] => only
  | [first, second] => first ++ " or " ++ second
  | _ => "one of " ++ ", ".intercalate marked

/-- The wording of a refusal of a document. -/
def message : DecodeError → String
  | .wrongType found expected => "invalid type: " ++ found.text ++ ", expected " ++ expected
  | .wrongValue found expected => "invalid value: " ++ found.text ++ ", expected " ++ expected
  | .wrongLength length expected =>
    "invalid length " ++ toString length ++ ", expected " ++ expected
  | .missingField name => "missing field `" ++ name ++ "`"
  | .duplicateField name => "duplicate field `" ++ name ++ "`"
  | .unknownVariant found known =>
    "unknown variant `" ++ found ++ "`, expected " ++ variantsText known
  | .time error => error.message
  | .base64 error => error.message

end DecodeError

/-- What is wrong with a text from which a value was to be read. -/
inductive TextFault where
  | malformed (fault : Json.SyntaxFault)
  | unfit (error : DecodeError)
  deriving DecidableEq, Repr

/-- The wording of a fault. -/
def TextFault.message : TextFault → String
  | .malformed fault => fault.message
  | .unfit error => error.message

/-- A fault and its place in the text. -/
structure TextError where
  fault : TextFault
  line : Nat
  column : Nat
  deriving DecidableEq, Repr

namespace TextError

/-- A fault as a message with a place. -/
def placed (error : TextError) : Placed := ⟨error.fault.message, error.line, error.column⟩

/-- The wording of a refusal of a text. -/
def message (error : TextError) : String := error.placed.text

end TextError

end PullSecretSync
