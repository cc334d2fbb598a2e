/-!
# JSON values

- `Numeral`: a JSON number as it is spelled, so that no number is out of reach.
- `Json`: the values of the format; the fields of an object keep their order.
-/

namespace StructVault

/-- A number in JSON: a sign, a whole part, the digits behind the point and a power of ten. -/
structure Numeral where
  negative : Bool := false
  whole : Nat
  /-- The digits behind the decimal point; with none there is no point. -/
  fraction : List (Fin 10) := []
  exponent : Option Int := none
  deriving DecidableEq, Repr

namespace Numeral

/-- A whole number. -/
def ofNat (n : Nat) : Numeral := { whole := n }

/-- The spelling of a number. -/
def text (numeral : Numeral) : List Char :=
  (if numeral.negative then ['-'] else [])
    ++ (toString numeral.whole).toList
    ++ (if numeral.fraction.isEmpty then []
        else '.' :: numeral.fraction.map fun digit => Nat.digitChar digit.val)
    ++ match numeral.exponent with
      | none => []
      | some power => 'e' :: (toString power).toList

end Numeral

/-- A JSON value. -/
inductive Json where
  | null
  | bool (value : Bool)
  | number (value : Numeral)
  | string (value : String)
  | array (items : List Json)
  | object (fields : List (String × Json))
  deriving Repr, Inhabited

/-- A whole number as a JSON value. -/
def Json.nat (n : Nat) : Json := .number (.ofNat n)

end StructVault
