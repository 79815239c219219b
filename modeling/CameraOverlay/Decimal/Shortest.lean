/-!
# Shortest decimal form of a double

A finite double is `m * 2 ^ q` for natural `m`. The reals that round to it form an interval
around it whose ends lie half a step from its two neighbours; the ends belong to it exactly
when `m` is even, since a tie rounds to the even mantissa. Below a power of two the lower step
is half as long as the upper one.

`Shortest.digits` tries 1, 2, ... 17 significant digits in turn. For `n` digits it looks at the
two multiples of `10 ^ k` that enclose the value, where `k` leaves `n` digits before the point;
the first `n` for which one of them lies in the interval wins, and of two such the nearer one.
Seventeen digits always suffice, so the search never fails. All comparisons are exact
arithmetic on natural numbers.

`Shortest.positional` writes such digits without an exponent, the way a double is displayed
as plain text: `1000`, `0.001`, `1.5`. `Shortest.exponential` writes them with one digit before
the point and a signed exponent: `1e+16`, `1.25e-7`.
-/

namespace CameraOverlay.Decimal

/-- A finite, non-negative double as `mantissa * 2 ^ exponent`. -/
structure Binary where
  mantissa : Nat
  exponent : Int
  /-- The step to the next smaller double is half the step to the next larger one. -/
  narrowBelow : Bool
deriving Repr, DecidableEq

/-- The binary form of the magnitude of a finite double. -/
def Binary.ofFloat (x : Float) : Binary :=
  let bits : Nat := x.toBits.toNat
  let field : Nat := bits % 4503599627370496
  let expField : Nat := bits / 4503599627370496 % 2048
  if expField = 0 then ⟨field, -1074, false⟩
  else ⟨4503599627370496 + field, (expField : Int) - 1075, field == 0 && expField > 1⟩

/-- A decimal `digits * 10 ^ exponent`. -/
structure Scientific where
  digits : Nat
  exponent : Int
deriving Repr, DecidableEq

namespace Shortest

/-- `10 ^ e` as the fraction `num / den`. -/
def pow10 (e : Int) : Nat × Nat := (Nat.pow 10 e.toNat, Nat.pow 10 (-e).toNat)

variable (b : Binary)

/-- The value as a fraction: `num / den`. -/
def num : Nat := b.mantissa * Nat.pow 2 b.exponent.toNat

/-- The value as a fraction: `num / den`. -/
def den : Nat := Nat.pow 2 (-b.exponent).toNat

/-- Whether `10 ^ e` is at most the value. -/
def pow10Le (e : Int) : Bool :=
  let (p, q) := pow10 e
  p * den b ≤ num b * q

/-- The decimal exponent of the leading digit: the largest `e` with `10 ^ e` at most the
value. The value lies within a factor of ten of `num` and `den`'s digit counts, so two
candidates are enough. -/
def leadExponent : Int :=
  let d : Int := ((Nat.toDigits 10 (num b)).length : Int) - (Nat.toDigits 10 (den b)).length
  if pow10Le b d then d else d - 1

/-- Whether `c * 10 ^ k` lies in the interval of reals that round to the value. -/
def inInterval (c : Nat) (k : Int) : Bool :=
  let (p, q) := pow10 k
  let lowGap := if b.narrowBelow then 1 else 2
  -- the interval ends, over the denominator `4 * den`
  let lo := (4 * b.mantissa - lowGap) * Nat.pow 2 b.exponent.toNat
  let hi := (4 * b.mantissa + 2) * Nat.pow 2 b.exponent.toNat
  let x := c * p * (4 * den b)
  let aboveLo := if b.mantissa % 2 = 0 then lo * q ≤ x else lo * q < x
  let belowHi := if b.mantissa % 2 = 0 then x ≤ hi * q else x < hi * q
  aboveLo && belowHi

/-- The best decimal with `n` significant digits that reads back, if there is one. -/
def withDigits (n : Nat) : Option Scientific :=
  let k := leadExponent b - n + 1
  let (p, q) := pow10 k
  -- the value over `10 ^ k`, as `a / d`
  let a := num b * q
  let d := den b * p
  let lower := a / d
  let upper := if a % d = 0 then lower else lower + 1
  match inInterval b lower k, inInterval b upper k with
  | true, true =>
    -- the nearer of the two; twice the value against their sum
    if 2 * a < (lower + upper) * d then some ⟨lower, k⟩
    else if 2 * a > (lower + upper) * d then some ⟨upper, k⟩
    else if lower % 2 = 0 then some ⟨lower, k⟩ else some ⟨upper, k⟩
  | true, false => some ⟨lower, k⟩
  | false, true => some ⟨upper, k⟩
  | false, false => none

/-- Drops trailing zero digits into the exponent. -/
def trim (s : Scientific) : Scientific :=
  let zeros := ((Nat.toDigits 10 s.digits).reverse.takeWhile (· = '0')).length
  if s.digits = 0 then ⟨0, 0⟩ else ⟨s.digits / Nat.pow 10 zeros, s.exponent + zeros⟩

/-- The fewest significant digits that read back as the value, the nearest such decimal. -/
def digits : Scientific :=
  if b.mantissa = 0 then ⟨0, 0⟩
  else
    match (List.range 17).findSome? fun i => withDigits b (i + 1) with
    | some s => trim s
    | none => ⟨num b / den b, 0⟩

def positional (s : Scientific) : String :=
  let ds := String.ofList (Nat.toDigits 10 s.digits)
  if 0 ≤ s.exponent then ds ++ String.ofList (List.replicate s.exponent.toNat '0')
  else
    let point : Int := (ds.length : Int) + s.exponent
    if 0 < point then
      String.ofList (ds.toList.take point.toNat) ++ "." ++ String.ofList (ds.toList.drop point.toNat)
    else "0." ++ String.ofList (List.replicate (-point).toNat '0') ++ ds

/-- Digits in scientific form: the first digit, the others after a point if there are any, then
`e` and the decimal exponent of the first digit with its sign, `+` or `-`. -/
def exponential (s : Scientific) : String :=
  let ds := Nat.toDigits 10 s.digits
  let e : Int := s.exponent + ds.length - 1
  let lead := match ds with
    | [] => "0"
    | [d] => String.singleton d
    | d :: rest => String.singleton d ++ "." ++ String.ofList rest
  lead ++ "e" ++ (if e < 0 then "-" else "+") ++ String.ofList (Nat.toDigits 10 e.natAbs)

/-- The decimal exponent of the first of the digits: the value lies in `[10 ^ e, 10 ^ (e + 1))`. -/
def leadDigitExponent (s : Scientific) : Int := s.exponent + (Nat.toDigits 10 s.digits).length - 1

end Shortest

/-- Whether the sign bit of a double is set (also for `-0.0`). -/
def signBit (x : Float) : Bool := x.toBits >>> 63 == 1

/-- The shortest decimal that reads back as a finite double's magnitude. -/
def shortest (x : Float) : Scientific := Shortest.digits (Binary.ofFloat x)

/-- A double as plain text without an exponent: the shortest digits that read back, a minus
sign when the sign bit is set, `NaN`, `inf` and `-inf` for the values without digits. -/
def plainText (x : Float) : String :=
  if x.isNaN then "NaN"
  else if x.isInf then (if x > 0 then "inf" else "-inf")
  else (if signBit x then "-" else "") ++ Shortest.positional (shortest x)

end CameraOverlay.Decimal
