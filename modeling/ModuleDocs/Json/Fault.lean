import ModuleDocs.Text.Quoted

/-!
# Json — Fault

What can be wrong with a JSON text that is read into records: faults of the text itself, values of
the wrong shape, and objects whose fields do not fit the record.  A fault says what is wrong and not
where: the line and the column that end a report are no part of it.
-/

namespace ModuleDocs.Json

/-- What was being read when the text ended. -/
inductive Place where
  | value | list | object | string
deriving DecidableEq, Repr

/-- The value that stands where another shape was wanted. -/
inductive Found where
  | null
  | boolean (b : Bool)
  | integer (n : Int)
  /-- A number with a fraction, an exponent or too many digits, as it is written back. -/
  | float (text : String)
  | string (s : String)
  | sequence
  | map
deriving DecidableEq, Repr

/-- The first thing wrong with a text. -/
inductive Fault where
  | eof (place : Place)
  | expectedValue
  | expectedColon
  | expectedListCommaOrEnd
  | expectedObjectCommaOrEnd
  | expectedIdent
  | keyMustBeString
  | trailingComma
  | trailingCharacters
  | invalidNumber
  | numberOutOfRange
  | invalidEscape
  | unexpectedEndOfHexEscape
  | loneSurrogate
  | controlCharacter
  | invalidType (found : Found) (expected : String)
  | invalidLength (length : Nat) (expected : String)
  | duplicateField (name : String)
  | missingField (name : String)
deriving DecidableEq, Repr

/-- The place as a fault names it. -/
def Place.text : Place → String
  | .value => "a value"
  | .list => "a list"
  | .object => "an object"
  | .string => "a string"

/-- The value as a fault names it. -/
def Found.text : Found → String
  | .null => "null"
  | .boolean b => "boolean `" ++ (if b then "true" else "false") ++ "`"
  | .integer n => "integer `" ++ toString n ++ "`"
  | .float t => "floating point `" ++ t ++ "`"
  | .string s => "string " ++ Text.quoted s
  | .sequence => "sequence"
  | .map => "map"

/-- The wording of a fault. -/
def Fault.message : Fault → String
  | .eof p => "EOF while parsing " ++ p.text
  | .expectedValue => "expected value"
  | .expectedColon => "expected `:`"
  | .expectedListCommaOrEnd => "expected `,` or `]`"
  | .expectedObjectCommaOrEnd => "expected `,` or `\x7d`"
  | .expectedIdent => "expected ident"
  | .keyMustBeString => "key must be a string"
  | .trailingComma => "trailing comma"
  | .trailingCharacters => "trailing characters"
  | .invalidNumber => "invalid number"
  | .numberOutOfRange => "number out of range"
  | .invalidEscape => "invalid escape"
  | .unexpectedEndOfHexEscape => "unexpected end of hex escape"
  | .loneSurrogate => "lone leading surrogate in hex escape"
  | .controlCharacter => "control character (\\u0000-\\u001F) found while parsing a string"
  | .invalidType found expected => "invalid type: " ++ found.text ++ ", expected " ++ expected
  | .invalidLength n expected => "invalid length " ++ toString n ++ ", expected " ++ expected
  | .duplicateField name => "duplicate field `" ++ name ++ "`"
  | .missingField name => "missing field `" ++ name ++ "`"

end ModuleDocs.Json
