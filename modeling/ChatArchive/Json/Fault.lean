import ChatArchive.Json.Printer
import ChatArchive.Text.Quoted

/-!
# Decoding faults

Why a text or a value cannot be decoded, and the message of each reason.
-/

namespace ChatArchive.Json

/-- What was found where something else was expected. -/
inductive Found where
  | null
  | bool (b : Bool)
  | int (n : Int)
  | float (x : Float)
  | str (s : String)
  | sequence
  | map

/-- A description for messages. -/
def Found.describe : Found → String
  | null => "null"
  | bool b => "boolean `" ++ (if b then "true" else "false") ++ "`"
  | int n => "integer `" ++ String.ofList (intText n) ++ "`"
  | float x => "floating point `" ++ String.ofList (floatText x) ++ "`"
  | str s => "string " ++ Text.quoted s
  | sequence => "sequence"
  | map => "map"

/-- Why decoding failed. -/
inductive Fault where
  | listUnclosed
  | objectUnclosed
  | stringUnclosed
  | valueMissing
  | colonExpected
  | listSeparatorExpected
  | objectSeparatorExpected
  | identExpected
  | valueExpected
  | badEscape
  | badNumber
  | numberTooLarge
  | controlCharacter
  | keyNotString
  | loneSurrogate
  | hexEscapeUnfinished
  | trailingComma
  | trailingCharacters
  | tooDeep
  | wrongType (found : Found) (expected : String)
  | wrongValue (found : Found) (expected : String)
  | wrongLength (length : Nat) (expected : String)
  | missingField (name : String)
  | duplicateField (name : String)
  | unknownVariant (name : String) (known : List String)
  | custom (text : String)

/-- The names of variants in a message. -/
def listNames : List String → String
  | [] => ""
  | [a] => "`" ++ a ++ "`"
  | [a, b] => "`" ++ a ++ "` or `" ++ b ++ "`"
  | as => "one of " ++ Text.join ", " (as.map fun a => "`" ++ a ++ "`")

/-- The message of a fault. -/
def Fault.message : Fault → String
  | listUnclosed => "EOF while parsing a list"
  | objectUnclosed => "EOF while parsing an object"
  | stringUnclosed => "EOF while parsing a string"
  | valueMissing => "EOF while parsing a value"
  | colonExpected => "expected `:`"
  | listSeparatorExpected => "expected `,` or `]`"
  | objectSeparatorExpected => "expected `,` or `\x7d`"
  | identExpected => "expected ident"
  | valueExpected => "expected value"
  | badEscape => "invalid escape"
  | badNumber => "invalid number"
  | numberTooLarge => "number out of range"
  | controlCharacter => "control character (\\u0000-\\u001F) found while parsing a string"
  | keyNotString => "key must be a string"
  | loneSurrogate => "lone leading surrogate in hex escape"
  | hexEscapeUnfinished => "unexpected end of hex escape"
  | trailingComma => "trailing comma"
  | trailingCharacters => "trailing characters"
  | tooDeep => "recursion limit exceeded"
  | wrongType found expected =>
    "invalid type: " ++ found.describe ++ ", expected " ++ expected
  | wrongValue found expected =>
    "invalid value: " ++ found.describe ++ ", expected " ++ expected
  | wrongLength n expected =>
    "invalid length " ++ toString n ++ ", expected " ++ expected
  | missingField name => "missing field `" ++ name ++ "`"
  | duplicateField name => "duplicate field `" ++ name ++ "`"
  | unknownVariant name known =>
    "unknown variant `" ++ name ++ "`, expected " ++ listNames known
  | custom text => text

end ChatArchive.Json
