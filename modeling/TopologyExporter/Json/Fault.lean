import TopologyExporter.Number.Shortest
import TopologyExporter.Text.Quoted
import TopologyExporter.Text.Utf8

/-!
# Faults of JSON texts

What can be wrong with a JSON text, as such or as a value of the wanted type, and where.
-/

namespace TopologyExporter.Json

/-- What was found where a value of another type was wanted. -/
inductive Found
  | null
  | boolean (b : Bool)
  | integer (n : Int)
  | float (x : Binary64)
  | text (s : String)
  | sequence
  | map
deriving Repr, DecidableEq, Inhabited

/-- How a value is named in a message. -/
def Found.describe : Found → String
  | null => "null"
  | boolean b => "boolean `" ++ toString b ++ "`"
  | integer n => "integer `" ++ toString n ++ "`"
  | float x => "floating point `" ++ x.compact ++ "`"
  | text s => "string " ++ Text.quoted s
  | sequence => "sequence"
  | map => "map"

/-- Why a JSON text is refused. -/
inductive Cause
  | endInList
  | endInObject
  | endInString
  | endInValue
  | expectedColon
  | expectedListCommaOrEnd
  | expectedObjectCommaOrEnd
  | expectedWord
  | expectedValue
  | invalidEscape
  | invalidNumber
  | numberOutOfRange
  | invalidCodePoint
  | controlCharacter
  | keyNotText
  | loneSurrogate
  | trailingComma
  | trailingCharacters
  | unfinishedSurrogate
  | wrongType (found : Found) (expected : String)
  | wrongValue (found : Found) (expected : String)
  | wrongLength (length : Nat) (expected : String)
  | missingField (name : String)
  | duplicateField (name : String)
  | unknownVariant (name : String) (known : List String)
deriving Repr, DecidableEq, Inhabited

/-- The sentence for a cause. -/
def Cause.message : Cause → String
  | endInList => "EOF while parsing a list"
  | endInObject => "EOF while parsing an object"
  | endInString => "EOF while parsing a string"
  | endInValue => "EOF while parsing a value"
  | expectedColon => "expected `:`"
  | expectedListCommaOrEnd => "expected `,` or `]`"
  | expectedObjectCommaOrEnd => "expected `,` or `\x7d`"
  | expectedWord => "expected ident"
  | expectedValue => "expected value"
  | invalidEscape => "invalid escape"
  | invalidNumber => "invalid number"
  | numberOutOfRange => "number out of range"
  | invalidCodePoint => "invalid unicode code point"
  | controlCharacter => "control character (\\u0000-\\u001F) found while parsing a string"
  | keyNotText => "key must be a string"
  | loneSurrogate => "lone leading surrogate in hex escape"
  | trailingComma => "trailing comma"
  | trailingCharacters => "trailing characters"
  | unfinishedSurrogate => "unexpected end of hex escape"
  | wrongType found expected => "invalid type: " ++ found.describe ++ ", expected " ++ expected
  | wrongValue found expected => "invalid value: " ++ found.describe ++ ", expected " ++ expected
  | wrongLength length expected =>
    "invalid length " ++ toString length ++ ", expected " ++ expected
  | missingField name => "missing field `" ++ name ++ "`"
  | duplicateField name => "duplicate field `" ++ name ++ "`"
  | unknownVariant name known =>
    "unknown variant `" ++ name ++ "`, expected one of " ++
      ", ".intercalate (known.map fun k => "`" ++ k ++ "`")

/-- A cause, and the bytes after the place where it was found. -/
structure Fault where
  cause : Cause
  rest : Bytes
deriving Repr, DecidableEq, Inhabited

/-- A cause with its place: the line from 1, and the bytes of that line before the place. -/
structure DecodeError where
  cause : Cause
  line : Nat
  column : Nat
deriving Repr, DecidableEq, Inhabited

/-- The fault as a place in the whole text. -/
def Fault.locate (whole : Bytes) (f : Fault) : DecodeError :=
  let before := whole.take (whole.length - f.rest.length)
  let newline : UInt8 := '\n'.toUInt8
  ⟨f.cause, before.count newline + 1, (before.reverse.takeWhile (· ≠ newline)).length⟩

/-- The text of the error. -/
def DecodeError.message (e : DecodeError) : String :=
  e.cause.message ++ " at line " ++ toString e.line ++ " column " ++ toString e.column

end TopologyExporter.Json
