import StructVault.Decimal.Shortest
import StructVault.Text.Quoted

/-!
# Errors of JSON texts

- `Json.Found`: what stands where something else was wanted.
- `Json.Cause`: why a text was refused.
- `Json.Category`: whether the text ended too early, is no JSON, or is JSON of the wrong shape.
- `Json.Error`: a cause with its line and column.
-/

namespace StructVault.Json

/-- What stands where something else was wanted. -/
inductive Found where
  | null
  | bool (value : Bool)
  | integer (value : Int)
  /-- A number that is no whole number, or too large for one, as the decimal it is read as. -/
  | float (decimal : String)
  | string (value : String)
  | sequence
  | map
  deriving DecidableEq, Repr

/-- The wording of what was found. -/
def Found.describe : Found → String
  | null => "null"
  | bool value => s!"boolean `{value}`"
  | integer value => s!"integer `{value}`"
  | float decimal => s!"floating point `{decimal}`"
  | string value => "string " ++ Text.quoted value
  | sequence => "sequence"
  | map => "map"

/-- Why a text was refused. -/
inductive Cause where
  | endInValue
  | endInString
  | endInList
  | endInObject
  | expectedColon
  | expectedListCommaOrEnd
  | expectedObjectCommaOrEnd
  | expectedIdent
  | expectedValue
  | invalidEscape
  | invalidNumber
  | numberOutOfRange
  | controlCharacter
  | keyMustBeString
  | loneSurrogate
  | unexpectedEndOfHexEscape
  | trailingComma
  | trailingCharacters
  /-- A value of another kind than the one wanted. -/
  | invalidType (found : Found) (expected : String)
  /-- A value of the right kind that does not fit. -/
  | invalidValue (found : Found) (expected : String)
  /-- An array that ends before the element with this index. -/
  | invalidLength (length : Nat) (expected : String)
  | missingField (name : String)
  | duplicateField (name : String)
  deriving DecidableEq, Repr

/-- The classes of causes. -/
inductive Category where
  | syntactic
  | data
  | early
  deriving DecidableEq, Repr

namespace Cause

/-- The class of a cause. -/
def category : Cause → Category
  | endInValue | endInString | endInList | endInObject => .early
  | invalidType .. | invalidValue .. | invalidLength .. | missingField _ | duplicateField _ =>
    .data
  | _ => .syntactic

/-- The wording of a cause. -/
def message : Cause → String
  | endInValue => "EOF while parsing a value"
  | endInString => "EOF while parsing a string"
  | endInList => "EOF while parsing a list"
  | endInObject => "EOF while parsing an object"
  | expectedColon => "expected `:`"
  | expectedListCommaOrEnd => "expected `,` or `]`"
  | expectedObjectCommaOrEnd => "expected `,` or `\x7d`"
  | expectedIdent => "expected ident"
  | expectedValue => "expected value"
  | invalidEscape => "invalid escape"
  | invalidNumber => "invalid number"
  | numberOutOfRange => "number out of range"
  | controlCharacter => "control character (\\u0000-\\u001F) found while parsing a string"
  | keyMustBeString => "key must be a string"
  | loneSurrogate => "lone leading surrogate in hex escape"
  | unexpectedEndOfHexEscape => "unexpected end of hex escape"
  | trailingComma => "trailing comma"
  | trailingCharacters => "trailing characters"
  | invalidType found expected => s!"invalid type: {found.describe}, expected {expected}"
  | invalidValue found expected => s!"invalid value: {found.describe}, expected {expected}"
  | invalidLength length expected => s!"invalid length {length}, expected {expected}"
  | missingField name => s!"missing field `{name}`"
  | duplicateField name => s!"duplicate field `{name}`"

end Cause

/-- Why and where a text was refused. Lines count from one; the column is the number of bytes
of the line that were taken. -/
structure Error where
  cause : Cause
  line : Nat
  column : Nat
  deriving DecidableEq, Repr

/-- The wording of an error. -/
def Error.message (error : Error) : String :=
  s!"{error.cause.message} at line {error.line} column {error.column}"

end StructVault.Json
