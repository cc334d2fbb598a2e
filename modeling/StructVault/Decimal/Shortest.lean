/-!
# Shortest decimals

The shortest decimal that stands for a binary fraction: the fewest digits whose value still
rounds to it, and among those the nearest.

- `Binary`: a positive number `mantissa * 2 ^ exponent`, with the neighbours it rounds against.
- `Binary.holds`: whether a decimal rounds to the number, decided in whole numbers.
- `Decimal.shortest`: the fewest digits that do, tried for one digit, two digits and so on.
- `Decimal.write`: plain notation where the decimal point is near the digits, powers of ten
  elsewhere.
-/

namespace StructVault

/-- A positive binary fraction of double precision. -/
structure Binary where
  mantissa : Nat
  exponent : Int
  /-- The number is the least of its power of two, so that its lower neighbour is nearer. -/
  leastOfBinade : Bool
  deriving DecidableEq, Repr

namespace Binary

/-- The bit above the 52 bits of a fraction. It is not stored. -/
def hiddenBit : Nat := 0x10000000000000

/-- The magnitude of a finite double, read from its bits. -/
def ofBits (bits : UInt64) : Binary :=
  let field : Nat := bits.toNat / hiddenBit % 2048
  let fraction : Nat := bits.toNat % hiddenBit
  if field = 0 then { mantissa := fraction, exponent := -1074, leastOfBinade := false }
  else
    { mantissa := hiddenBit + fraction, exponent := (field : Int) - 1075,
      leastOfBinade := fraction == 0 && decide (1 < field) }

/-- The power with a whole exponent, as a numerator and a denominator. -/
def ratio (base : Nat) : Int → Nat × Nat
  | .ofNat n => (base.pow n, 1)
  | .negSucc n => (1, base.pow (n + 1))

/-- Whether `digits * 10 ^ power` lies between the midpoints to the neighbours. The midpoints
themselves round to the number exactly when its mantissa is even. -/
def holds (number : Binary) (digits : Nat) (power : Int) : Bool :=
  let (twoUp, twoDown) := ratio 2 number.exponent
  let (tenUp, tenDown) := ratio 10 power
  let decimal := 4 * digits * tenUp * twoDown
  let scale := twoUp * tenDown
  let low := (4 * number.mantissa - if number.leastOfBinade then 1 else 2) * scale
  let high := (4 * number.mantissa + 2) * scale
  if number.mantissa % 2 = 0 then low ≤ decimal && decimal ≤ high
  else low < decimal && decimal < high

/-- The number divided by `10 ^ power`, rounded down, and whether more than half is left. -/
def quotient (number : Binary) (power : Int) : Nat × Bool :=
  let (twoUp, twoDown) := ratio 2 number.exponent
  let (tenUp, tenDown) := ratio 10 power
  let numerator := number.mantissa * twoUp * tenDown
  let denominator := twoDown * tenUp
  (numerator / denominator, denominator < 2 * (numerator % denominator))

/-- The largest power of ten that is at most the number, looked for from `guess` downwards. -/
def leadingPower (number : Binary) : Nat → Int → Int
  | 0, guess => guess
  | fuel + 1, guess =>
    if 0 < (number.quotient guess).1 then guess else leadingPower number fuel (guess - 1)

end Binary

/-- A positive decimal, `digits * 10 ^ power`. -/
structure Decimal where
  digits : Nat
  power : Int
  deriving DecidableEq, Repr

namespace Decimal

/-- The most digits a double ever needs. -/
def mostDigits : Nat := 17

/-- On the grid of multiples of `10 ^ power`, the point that rounds to the number, if there is
one: of the two points around the number the nearer. -/
def onGrid (number : Binary) (power : Int) : Option Decimal :=
  let (below, nearerAbove) := number.quotient power
  let first := if nearerAbove then below + 1 else below
  let second := if nearerAbove then below else below + 1
  if number.holds first power then some ⟨first, power⟩
  else if number.holds second power then some ⟨second, power⟩
  else none

/-- The point of the coarsest grid that rounds to the number, over `tries` finer and finer
grids. -/
def search (number : Binary) : Nat → Int → Decimal
  | 0, power => ⟨(number.quotient power).1, power⟩
  | tries + 1, power => (onGrid number power).getD (search number tries (power - 1))

/-- Trailing zeros moved from the digits into the power. -/
def trim : Nat → Decimal → Decimal
  | 0, decimal => decimal
  | fuel + 1, decimal =>
    if decimal.digits ≠ 0 ∧ decimal.digits % 10 = 0 then
      trim fuel ⟨decimal.digits / 10, decimal.power + 1⟩
    else decimal

/-- The fewest digits that round to a positive number. -/
def shortest (number : Binary) : Decimal :=
  trim mostDigits (search number mostDigits (number.leadingPower 640 309))

/-- The place of the point, counted from the first digit, from which on decimals are written
without a power of ten: at most four zeros stand between the point and the digits. -/
def firstPlain : Int := -4

/-- The last place of the point at which decimals are written without a power of ten. -/
def lastPlain : Int := 16

/-- A decimal as text. A fraction is always shown, also where it is zero. -/
def write (decimal : Decimal) : String :=
  let digits := (toString decimal.digits).toList
  let point := decimal.power + digits.length
  if decimal.power ≥ 0 ∧ point ≤ lastPlain then
    String.ofList (digits ++ List.replicate decimal.power.toNat '0') ++ ".0"
  else if 0 < point ∧ point ≤ lastPlain then
    String.ofList (digits.take point.toNat) ++ "." ++ String.ofList (digits.drop point.toNat)
  else if firstPlain ≤ point ∧ point ≤ 0 then
    "0." ++ String.ofList (List.replicate (-point).toNat '0' ++ digits)
  else
    let tail := digits.drop 1
    String.ofList (digits.take 1) ++ (if tail.isEmpty then "" else "." ++ String.ofList tail)
      ++ "e" ++ (if point - 1 < 0 then "-" else "+") ++ toString (point - 1).natAbs

/-- A finite double as text. -/
def ofFloat (x : Float) : String :=
  let bits := x.toBits
  let sign := if bits.toNat < UInt64.size / 2 then "" else "-"
  let magnitude := Binary.ofBits bits
  sign ++ if magnitude.mantissa = 0 then "0.0" else write (shortest magnitude)

end Decimal

end StructVault
