/-!
# Numbers in JSON text

A JSON number without a fraction or exponent is an integer: non-negative ones are kept when they
fit in 64 unsigned bits, negative ones when they fit in 64 signed bits. Every other number, and
`-0`, becomes a double.

A double is computed from the decimal digits the way a fast reader does it, not by correct
rounding: the digits are gathered into a 64-bit significand (digits that would overflow it are
dropped, each dropped digit of the integer part raising the exponent by one), the significand is
converted to a double, and the double is then multiplied or divided once by the power of ten of
the exponent taken from a table of correctly rounded powers `10 ^ 0 ... 10 ^ 308`. Exponents
below the table first divide by `10 ^ 308`. A product that overflows is out of range. The rule
can differ from correct rounding in the last place: `0.9999999999999999` reads as `1`.
-/

namespace CameraOverlay.Json

inductive Number where
  /-- A non-negative integer below `2 ^ 64`. -/
  | unsigned (n : Nat)
  /-- A negative integer not below `-2 ^ 63`. -/
  | signed (n : Int)
  /-- Any other number. -/
  | float (x : Float)
deriving Inhabited

def u64Max : Nat := 18446744073709551615

/-- Whether appending digit `d` to significand `s` stays within 64 bits. -/
def fitsDigit (s d : Nat) : Bool := s * 10 + d ≤ u64Max

/-- A natural number as a double, rounded to nearest. -/
def natToFloat (n : Nat) : Float := Float.ofNat n

/-- `10 ^ k` as a correctly rounded double, for the table's range `0 ≤ k ≤ 308`. -/
def pow10 (k : Nat) : Float := Float.ofScientific 1 false k

/-- Scales a double by `10 ^ exponent` with one table power, dividing by `10 ^ 308` first while
the exponent is below the table. `none` when the result overflows. The fuel counts the
divisions; an exponent above `-309 * fuel` needs no more than `fuel`. -/
def scale (f : Float) (exponent : Int) : Nat → Option Float
  | 0 => some f
  | fuel + 1 =>
    if exponent.natAbs ≤ 308 then
      if 0 ≤ exponent then
        let r := f * pow10 exponent.toNat
        if r.isInf then none else some r
      else some (f / pow10 exponent.natAbs)
    else if f == 0 then some f
    else if 0 ≤ exponent then none
    else scale (f / pow10 308) (exponent + 308) fuel

/-- The double of `±significand * 10 ^ exponent` by the fast rule; `none` when out of range. -/
def floatOfParts (negative : Bool) (significand : Nat) (exponent : Int) : Option Float :=
  let f := natToFloat significand
  match scale f exponent (exponent.natAbs / 308 + 2) with
  | some r => some (if negative then -r else r)
  | none => none

/-- The digits of a significand that fit in 64 bits, and how many digits were dropped. -/
def truncate (digits : List Nat) : Nat × Nat :=
  let rec go : List Nat → Nat → Nat × Nat
    | [], s => (s, 0)
    | d :: ds, s => if fitsDigit s d then go ds (s * 10 + d) else (s, d :: ds |>.length)
  go digits 0

/-- The double of the decimal `±mantissa * 10 ^ -fractionDigits`, written with the given number
of digits after the point, by the fast rule. -/
def floatOfDecimal (negative : Bool) (mantissa fractionDigits : Nat) : Option Float :=
  let (s, dropped) := truncate (Nat.toDigits 10 mantissa |>.map fun c => c.toNat - '0'.toNat)
  floatOfParts negative s ((dropped : Int) - fractionDigits)

end CameraOverlay.Json
