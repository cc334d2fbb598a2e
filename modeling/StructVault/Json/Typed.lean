import StructVault.Json.Numbers
import StructVault.Json.Strings

/-!
# Reading values of a wanted kind

Where a value of one kind is wanted and another stands, the error names both. For that the
value is taken to its end, except for lists and objects, of which only the bracket is looked at.

- `Reader.wrongType`: the error.
- `Reader.text`, `Reader.optionalText`, `Reader.word`: texts and whole numbers of 64 bits.
- `Reader.list`: a list of values of one kind.
- `parse`: a value that fills a whole text.
-/

namespace StructVault.Json

namespace Reader

/-- What stands next, which is not what was wanted. -/
def found : Reader Found := do
  match ← peek with
  | some 'n' => advance; literal ['u', 'l', 'l']; return .null
  | some 't' => advance; literal ['r', 'u', 'e']; return .bool true
  | some 'f' => advance; literal ['a', 'l', 's', 'e']; return .bool false
  | some '"' => advance; return .string (← stringBody)
  | some '[' => return .sequence
  | some '\x7b' => return .map
  | some c =>
    if c == '-' then advance; return (← number true).found
    else if isDigit c then return (← number false).found
    else failNext .expectedValue
  | none => failNext .endInValue

/-- Refuse the value that stands next. -/
def wrongType {α : Type} (expected : String) : Reader α := do
  let found ← found
  fail (.invalidType found expected)

/-- A text. -/
def text : Reader String := do
  match ← peekPastBlanks with
  | none => failNext .endInValue
  | some '"' => advance; stringBody
  | some _ => wrongType "a string"

/-- A text, or `null` for none. -/
def optionalText : Reader (Option String) := do
  match ← peekPastBlanks with
  | some 'n' => advance; literal ['u', 'l', 'l']; return none
  | _ => return some (← text)

/-- A whole number of 64 bits. -/
def word : Reader UInt64 := do
  match ← peekPastBlanks with
  | none => failNext .endInValue
  | some c =>
    if c == '-' then
      advance
      fits (← number true)
    else if isDigit c then fits (← number false)
    else wrongType "u64"
where
  /-- The number, if it is one of 64 bits. -/
  fits : Number → Reader UInt64
    | .unsigned value => return value
    | .negative magnitude => fail (.invalidValue (.integer (-magnitude)) "u64")
    | .double value => fail (.invalidType (.float (Decimal.ofFloat value)) "u64")

/-- Whether another element of a list follows; if so, the comma in front of it is taken. -/
def nextElement (first : Bool) : Reader Bool := do
  match ← peekPastBlanks with
  | none => failNext .endInList
  | some ']' => return false
  | some c =>
    if first then return true
    else if c == ',' then
      advance
      match ← peekPastBlanks with
      | some ']' => failNext .trailingComma
      | some _ => return true
      | none => failNext .endInValue
    else failNext .expectedListCommaOrEnd

/-- The end of a list of which nothing more is wanted. -/
def listEnd : Reader Unit := do
  match ← peekPastBlanks with
  | some ']' => advance
  | some ',' =>
    advance
    match ← peekPastBlanks with
    | some ']' => failNext .trailingComma
    | _ => failNext .trailingCharacters
  | some _ => failNext .trailingCharacters
  | none => failNext .endInList

/-- The elements of a list behind its opening bracket. -/
def elements {α : Type} (element : Reader α) : (rounds : Nat) → (first : Bool) → Reader (List α)
  | 0, _ => failNext .endInList
  | rounds + 1, first => do
    if ← nextElement first then
      let value ← element
      let values ← elements element rounds false
      return value :: values
    else return []

/-- A list of values of one kind. -/
def list {α : Type} (element : Reader α) : Reader (List α) := do
  match ← peekPastBlanks with
  | none => failNext .endInValue
  | some '[' =>
    advance
    let values ← elements element (← rounds) true
    listEnd
    return values
  | some _ => wrongType "a sequence"

/-- The end of the text. -/
def finish : Reader Unit := do
  match ← peekPastBlanks with
  | none => return ()
  | some _ => failNext .trailingCharacters

end Reader

/-- A value that fills a whole text. -/
def parse {α : Type} (value : Reader α) (text : String) : Except Error α :=
  match (do let result ← value; Reader.finish; return result : Reader α) ⟨0, text.toList⟩ with
  | .ok result _ => .ok result
  | .error problem _ => .error (problem.locate text.toList)

end StructVault.Json
