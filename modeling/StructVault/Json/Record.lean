import StructVault.Json.Skip
import StructVault.Json.Typed

/-!
# Reading records

A record is an object with known fields in any order, or an array of their values in the order
of the record. Fields that nobody knows are passed over; a known field may come once. A field
that is not required may be left out, in an array only behind those that are there.

- `Slot`: one field of a record, with the place for its value in a partly read record.
- `Shape`: the slots of a record and how to make one from its parts.
- `Reader.record`: the reader of a shape.
-/

namespace StructVault.Json

/-- One field of a record that is being gathered in a value of `Parts`. -/
structure Slot (Parts : Type) where
  key : String
  required : Bool
  /-- Whether the value has been read. -/
  filled : Parts → Bool
  /-- Read the value into its place. -/
  read : Parts → Reader Parts

/-- The fields of a record and how to make it from their values. -/
structure Shape (Parts Record : Type) where
  /-- What errors call the record. -/
  label : String
  slots : List (Slot Parts)
  /-- Nothing has been read. -/
  none : Parts
  /-- The record of the values read, with the defaults for those left out. -/
  make : Parts → Record

/-- A slot for a value of any kind, with the way to reach its place. -/
def Slot.of {Parts α : Type} (key : String) (required : Bool) (get : Parts → Option α)
    (set : Parts → α → Parts) (reader : Reader α) : Slot Parts where
  key := key
  required := required
  filled := fun parts => (get parts).isSome
  read := fun parts => do return set parts (← reader)

namespace Reader

/-- Whether another field of an object follows; if so, the comma in front of it and the quote
that opens its key are taken. -/
def nextKey (first : Bool) : Reader Bool := do
  match ← peekPastBlanks with
  | none => failNext .endInObject
  | some '\x7d' => return false
  | some c =>
    if first then
      if c == '"' then advance; return true else failNext .keyMustBeString
    else if c == ',' then
      advance
      match ← peekPastBlanks with
      | some '"' => advance; return true
      | some '\x7d' => failNext .trailingComma
      | some _ => failNext .keyMustBeString
      | none => failNext .endInValue
    else failNext .expectedObjectCommaOrEnd

/-- The colon behind a key. -/
def colon : Reader Unit := do
  match ← peekPastBlanks with
  | some ':' => advance
  | some _ => failNext .expectedColon
  | none => failNext .endInObject

/-- Refuse a field that came before. The object is looked through to its end if that follows. -/
def duplicate {α : Type} (key : String) : Reader α := do
  match ← peekPastBlanks with
  | some '\x7d' => advance; fail (.duplicateField key)
  | _ => fail (.duplicateField key)

/-- The fields of an object behind its opening bracket, up to the closing one. -/
def fields {Parts : Type} (slots : List (Slot Parts)) :
    (rounds : Nat) → (first : Bool) → Parts → Reader Parts
  | 0, _, _ => failNext .endInObject
  | rounds + 1, first, parts => do
    if ← nextKey first then
      let key ← stringBody
      match slots.find? (·.key == key) with
      | none =>
        colon
        skipValue
        fields slots rounds false parts
      | some slot =>
        if slot.filled parts then duplicate key
        else
          colon
          fields slots rounds false (← slot.read parts)
    else return parts

/-- The first required field that is still missing. -/
def missing {Parts : Type} (slots : List (Slot Parts)) (parts : Parts) : Option String :=
  (slots.find? fun slot => slot.required && !slot.filled parts).map (·.key)

/-- The elements of an array behind its opening bracket, each into the next slot. -/
def places {Parts : Type} (expected : String) :
    List (Slot Parts) → (index : Nat) → Parts → Reader Parts
  | [], _, parts => return parts
  | slot :: slots, index, parts => do
    if ← nextElement (index == 0) then
      places expected slots (index + 1) (← slot.read parts)
    else if slot.required then
      advance
      fail (.invalidLength index expected)
    else places expected slots (index + 1) parts

/-- What errors call an array of the wrong length. -/
def arrayLabel {Parts Record : Type} (shape : Shape Parts Record) : String :=
  let count := shape.slots.length
  s!"struct {shape.label} with {count} element" ++ if count = 1 then "" else "s"

/-- A record of a shape. -/
def record {Parts Record : Type} (shape : Shape Parts Record) : Reader Record := do
  match ← peekPastBlanks with
  | none => failNext .endInValue
  | some '[' =>
    advance
    let parts ← places (arrayLabel shape) shape.slots 0 shape.none
    listEnd
    return shape.make parts
  | some '\x7b' =>
    advance
    let parts ← fields shape.slots (← rounds) true shape.none
    advance
    match missing shape.slots parts with
    | some key => fail (.missingField key)
    | none => return shape.make parts
  | some _ => wrongType ("struct " ++ shape.label)

end Reader

end StructVault.Json
