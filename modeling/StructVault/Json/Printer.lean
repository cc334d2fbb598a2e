import StructVault.Json.Value
import StructVault.Text.Quoted

/-!
# Writing JSON

- `Json.quote`: a text between quotes. Quotes, backslashes and controls are escaped and nothing
  else.
- `Json.compact`: a value without any blank.
- `Json.prettyAt`: a value with one item or field a line, indented by two blanks a level.
-/

namespace StructVault.Json

/-- A character inside quotes. -/
def escape (c : Char) : List Char :=
  if c == '"' then ['\\', '"']
  else if c == '\\' then ['\\', '\\']
  else if c == '\n' then ['\\', 'n']
  else if c == '\r' then ['\\', 'r']
  else if c == '\t' then ['\\', 't']
  else if c.toNat == 8 then ['\\', 'b']
  else if c.toNat == 12 then ['\\', 'f']
  else if c.toNat < 32 then ['\\', 'u', '0', '0', Hex.digit (c.toNat / 16), Hex.digit c.toNat]
  else [c]

/-- A text between quotes. -/
def quote (text : String) : List Char := '"' :: text.toList.flatMap escape ++ ['"']

mutual

/-- A value without blanks. -/
def compact : Json → List Char
  | .null => "null".toList
  | .bool true => "true".toList
  | .bool false => "false".toList
  | .number n => n.text
  | .string s => quote s
  | .array [] => ['[', ']']
  | .array (item :: items) => '[' :: compact item ++ compactItems items ++ [']']
  | .object [] => ['\x7b', '\x7d']
  | .object ((key, value) :: fields) =>
    '\x7b' :: quote key ++ ':' :: compact value ++ compactFields fields ++ ['\x7d']

/-- The items behind the first. -/
def compactItems : List Json → List Char
  | [] => []
  | item :: items => ',' :: compact item ++ compactItems items

/-- The fields behind the first. -/
def compactFields : List (String × Json) → List Char
  | [] => []
  | (key, value) :: fields =>
    ',' :: quote key ++ ':' :: compact value ++ compactFields fields

end

/-- A new line at a level of indentation. -/
def newline (level : Nat) : List Char := '\n' :: List.replicate (2 * level) ' '

mutual

/-- A value at a level of indentation, one item or field a line. -/
def prettyAt (level : Nat) : Json → List Char
  | .null => "null".toList
  | .bool true => "true".toList
  | .bool false => "false".toList
  | .number n => n.text
  | .string s => quote s
  | .array [] => ['[', ']']
  | .array (item :: items) =>
    '[' :: newline (level + 1) ++ prettyAt (level + 1) item ++ prettyItems (level + 1) items
      ++ newline level ++ [']']
  | .object [] => ['\x7b', '\x7d']
  | .object ((key, value) :: fields) =>
    '\x7b' :: newline (level + 1) ++ quote key ++ ':' :: ' ' :: prettyAt (level + 1) value
      ++ prettyFields (level + 1) fields ++ newline level ++ ['\x7d']

/-- The items behind the first. -/
def prettyItems (level : Nat) : List Json → List Char
  | [] => []
  | item :: items => ',' :: newline level ++ prettyAt level item ++ prettyItems level items

/-- The fields behind the first. -/
def prettyFields (level : Nat) : List (String × Json) → List Char
  | [] => []
  | (key, value) :: fields =>
    ',' :: newline level ++ quote key ++ ':' :: ' ' :: prettyAt level value
      ++ prettyFields level fields

end

/-- The text of a value without blanks. -/
def compactText (value : Json) : String := String.ofList value.compact

/-- The text of a value with one item or field a line. -/
def prettyText (value : Json) : String := String.ofList (value.prettyAt 0)

end StructVault.Json
