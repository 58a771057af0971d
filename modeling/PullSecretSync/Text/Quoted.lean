import PullSecretSync.Text.Utf8
import PullSecretSync.Text.Visible

/-!
# Quoted text

How a text is shown inside a message: between quotation marks, with the marks, reverse solidi and
characters that cannot be seen escaped. Bytes that need not be UTF-8 are shown by the characters
they spell and, where they spell none, by their hexadecimal values.
-/

namespace PullSecretSync.Text

/-- The lower-case hexadecimal digits of a number. -/
def hexDigits (value : Nat) : String := String.ofList (Nat.toDigits 16 value)

/-- How a character stands between quotation marks. -/
def quotedChar (c : Char) : String :=
  if c = '"' then "\\\""
  else if c = '\\' then "\\\\"
  else if c = '\n' then "\\n"
  else if c = '\r' then "\\r"
  else if c = '\t' then "\\t"
  else if c.toNat = 0 then "\\0"
  else if isVisible c then String.singleton c
  else "\\u\x7b" ++ hexDigits c.toNat ++ "\x7d"

/-- A text between quotation marks. -/
def quoted (text : String) : String :=
  "\"" ++ String.join (text.toList.map quotedChar) ++ "\""

/-- The upper-case hexadecimal digit of a number below sixteen. -/
def upperHexDigit (value : Nat) : Char := (Nat.digitChar value).toUpper

/-- How a character or a stray byte of quoted bytes is shown. -/
def quotedUnit : Unit8 → String
  | .char c => quotedChar c
  | .stray byte =>
    "\\x" ++ String.ofList [upperHexDigit (byte.toNat / 16), upperHexDigit (byte.toNat % 16)]

/-- Bytes between quotation marks. -/
def quotedBytes (bytes : List UInt8) : String :=
  "\"" ++ String.join ((units bytes).map quotedUnit) ++ "\""

end PullSecretSync.Text
