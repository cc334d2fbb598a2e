import StructVault.Json.Numbers
import StructVault.Json.Strings

/-!
# Passing over values

A value that nobody wants is passed over without keeping any of it. The brackets that are still
open are held in a list, innermost first, so that a value may be nested to any depth.
-/

namespace StructVault.Json

/-- A bracket that is still open. -/
inductive Bracket where
  | list
  | object
  deriving DecidableEq, Repr

namespace Bracket

/-- The cause of an end of text inside the bracket. -/
def endCause : Bracket → Cause
  | list => .endInList
  | object => .endInObject

/-- The cause of a character that neither continues nor closes the bracket. -/
def commaCause : Bracket → Cause
  | list => .expectedListCommaOrEnd
  | object => .expectedObjectCommaOrEnd

/-- The character that closes the bracket. -/
def closer : Bracket → Char
  | list => ']'
  | object => '\x7d'

end Bracket

namespace Reader

/-- Pass over the key in front of a value and its colon. -/
def skipKey : Reader Unit := do
  match ← peekPastBlanks with
  | some '"' => advance; skipString
  | some _ => failNext .keyMustBeString
  | none => failNext .endInObject
  match ← peekPastBlanks with
  | some ':' => advance
  | some _ => failNext .expectedColon
  | none => failNext .endInObject

/-- Pass over a value up to its end or, if it is a list or an object, over its opening bracket. -/
def skipHead : Reader (Option Bracket) := do
  match ← peekPastBlanks with
  | none => failNext .endInValue
  | some 'n' => advance; literal ['u', 'l', 'l']; return none
  | some 't' => advance; literal ['r', 'u', 'e']; return none
  | some 'f' => advance; literal ['a', 'l', 's', 'e']; return none
  | some '"' => advance; skipString; return none
  | some '[' => advance; return some .list
  | some '\x7b' => advance; return some .object
  | some c =>
    if c == '-' then advance; skipNumber; return none
    else if isDigit c then skipNumber; return none
    else failNext .expectedValue

/-- Behind a value, or behind an opening bracket: pass over closing brackets up to the place
where a further value is due. The result holds the brackets still open there; with none left
the whole value is over. `afterValue` says whether a comma may come. -/
def skipClosers : (opened : List Bracket) → (afterValue : Bool) → Reader (List Bracket)
  | [], _ => return []
  | bracket :: outer, afterValue => do
    match ← peekPastBlanks with
    | none => failNext bracket.endCause
    | some c =>
      if c == bracket.closer then
        advance
        skipClosers outer true
      else if !afterValue then return bracket :: outer
      else if c == ',' then
        advance
        return bracket :: outer
      else failNext bracket.commaCause

/-- Pass over the values that are due inside the open brackets, and the brackets. -/
def skipOpened : (rounds : Nat) → (opened : List Bracket) → Reader Unit
  | 0, _ => failNext .endInValue
  | rounds + 1, opened => do
    match ← skipHead with
    | some bracket => goOn rounds (← skipClosers (bracket :: opened) false)
    | none => goOn rounds (← skipClosers opened true)
where
  /-- Pass over the key of the value that is due, if it needs one, and go on. -/
  goOn (rounds : Nat) (opened : List Bracket) : Reader Unit :=
    match opened with
    | [] => return ()
    | .list :: _ => skipOpened rounds opened
    | .object :: _ => do
      skipKey
      skipOpened rounds opened

/-- Pass over one value. -/
def skipValue : Reader Unit := do skipOpened (← rounds) []

end Reader

end StructVault.Json
