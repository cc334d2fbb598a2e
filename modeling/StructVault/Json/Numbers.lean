import StructVault.Json.Reader

/-!
# Reading numbers

A number without point and exponent is a whole number as long as it fits into 64 bits; every
other number is read as a double. Its digits are gathered into a significand of 64 bits and a
power of ten, and the double is their product, rounded once for each factor.

- `absorb`: digits into a significand, up to the first that does not fit.
- `toDouble?`: the product, unless it is out of range.
- `Reader.number`: a number behind its sign.
- `Reader.skipNumber`: the same where nobody wants the value.
-/

namespace StructVault.Json

/-- Whether a character is a decimal digit. -/
def isDigit (c : Char) : Bool := '0' ≤ c && c ≤ '9'

/-- The value of a decimal digit. -/
def digitValue (c : Char) : Nat := c.toNat - '0'.toNat

/-- A number as it is read. -/
inductive Number where
  | unsigned (value : UInt64)
  /-- A negative number, by its distance from zero. -/
  | negative (magnitude : Nat)
  | double (value : Float)

/-- What a number is called where none was wanted. -/
def Number.found : Number → Found
  | unsigned value => .integer value.toNat
  | negative magnitude => .integer (-magnitude)
  | double value => .float (Decimal.ofFloat value)

/-- Append digits to a significand as long as the result fits into 64 bits; the digits from the
first that does not fit are left. -/
def absorb (significand : Nat) : List Char → Nat × List Char
  | [] => (significand, [])
  | c :: cs =>
    let next := significand * 10 + digitValue c
    if next < UInt64.size then absorb next cs else (significand, c :: cs)

/-- The power of ten beyond which no double lies. -/
def largestPower : Nat := 308

/-- `value * 10 ^ power`, in steps that a double can make, or nothing where that is out of range.
`fuel` bounds the number of divisions. -/
def scale : Nat → Float → Int → Option Float
  | 0, value, _ => some value
  | fuel + 1, value, power =>
    if power.natAbs ≤ largestPower then
      let factor := Float.ofScientific 1 false power.natAbs
      if 0 ≤ power then
        let product := value * factor
        if product.isInf then none else some product
      else some (value / factor)
    else if value == 0 then some value
    else if 0 ≤ power then none
    else scale fuel (value / Float.ofScientific 1 false largestPower) (power + largestPower)

/-- The double nearest to a significand times a power of ten. -/
def toDouble? (negative : Bool) (significand : Nat) (power : Int) : Option Float :=
  (scale (power.natAbs / largestPower + 1) (UInt64.ofNat significand).toFloat power).map
    fun value => if negative then -value else value

/-- The largest exponent that is counted out, the largest signed number of 32 bits. -/
def largestExponent : Nat := UInt32.size / 2 - 1

/-- The value of exponent digits and how many of them it took; `none` where it grows beyond
`largestExponent`. -/
def exponentValue (sofar : Nat) : List Char → Option Nat × Nat
  | [] => (some sofar, 0)
  | c :: cs =>
    let next := sofar * 10 + digitValue c
    if next ≤ largestExponent then
      let (value, count) := exponentValue next cs
      (value, count + 1)
    else (none, 1)

namespace Reader

/-- Take the digits at the front. -/
def digits : Reader (List Char) := fun input =>
  let found := input.rest.takeWhile isDigit
  .ok found { offset := input.offset + found.length, rest := input.rest.drop found.length }

/-- The double of a significand and a power, if it is in range. -/
def double (negative : Bool) (significand : Nat) (power : Int) : Reader Number :=
  match toDouble? negative significand power with
  | some value => return .double value
  | none => fail .numberOutOfRange

/-- Take the sign in front of an exponent. -/
def exponentSign : Reader Bool := do
  match ← peek with
  | some '+' => advance; return true
  | some '-' => advance; return false
  | _ => return true

/-- The exponent behind its `e`. -/
def exponent (negative : Bool) (significand : Nat) (power : Int) : Reader Number := do
  let positive ← exponentSign
  match ← peek with
  | none => fail .endInValue
  | some c =>
    if !isDigit c then failTaken .invalidNumber
    else
      let before ← get
      let found ← digits
      match exponentValue 0 found with
      | (some value, _) =>
        double negative significand (if positive then power + value else power - value)
      | (none, count) =>
        if significand ≠ 0 && positive then
          throw ⟨before.offset + count, .numberOutOfRange⟩
        else return .double (if negative then -0.0 else 0.0)

/-- What may follow the digits of a double: an exponent, or nothing. -/
def exponent? (negative : Bool) (significand : Nat) (power : Int) : Reader Number := do
  match ← peek with
  | some 'e' | some 'E' => advance; exponent negative significand power
  | _ => double negative significand power

/-- The digits behind a decimal point. Digits that do not fit are passed over. -/
def fraction (negative : Bool) (significand : Nat) (power : Int) : Reader Number := do
  let found ← digits
  if found.isEmpty then
    match ← peek with
    | some _ => failNext .invalidNumber
    | none => failNext .endInValue
  else
    let (longer, left) := absorb significand found
    exponent? negative longer (power - (found.length - left.length : Nat))

/-- A number behind its sign. -/
def number (negative : Bool) : Reader Number := do
  match ← peek with
  | none => fail .endInValue
  | some c =>
    if !isDigit c then failTaken .invalidNumber
    else
      let before ← get
      let found ← digits
      if c == '0' && found.length ≠ 1 then throw ⟨before.offset + 2, .invalidNumber⟩
      let (significand, left) := absorb 0 found
      match ← peek with
      | some '.' => advance; fraction negative significand left.length
      | some 'e' | some 'E' => advance; exponent negative significand left.length
      | _ =>
        if !left.isEmpty then double negative significand left.length
        else if !negative then return .unsigned (UInt64.ofNat significand)
        else if significand = 0 || UInt64.size / 2 < significand then
          return .double (-(UInt64.ofNat significand).toFloat)
        else return .negative significand

/-- Pass over an exponent behind its `e`. -/
def skipExponent : Reader Unit := do
  let _ ← exponentSign
  match ← peek with
  | none => fail .invalidNumber
  | some c => if isDigit c then let _ ← digits else failTaken .invalidNumber

/-- Pass over an exponent, if there is one. -/
def skipExponent? : Reader Unit := do
  match ← peek with
  | some 'e' | some 'E' => advance; skipExponent
  | _ => return ()

/-- Pass over a number behind its sign. -/
def skipNumber : Reader Unit := do
  match ← peek with
  | none => fail .invalidNumber
  | some c =>
    if !isDigit c then failTaken .invalidNumber
    else
      let before ← get
      let found ← digits
      if c == '0' && found.length ≠ 1 then throw ⟨before.offset + 2, .invalidNumber⟩
      match ← peek with
      | some '.' =>
        advance
        if (← digits).isEmpty then failNext .invalidNumber
        skipExponent?
      | _ => skipExponent?

end Reader

end StructVault.Json
