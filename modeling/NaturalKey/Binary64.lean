/-!
Finite doubles in exact arithmetic. Every operation is the true rational result rounded to the
nearest double, halves to the even neighbour, and has no result where that is beyond the largest
double. A double is written as the shortest decimal that reads as it.
-/

set_option autoImplicit false

namespace NaturalKey

/-- A finite double. `bits` are the 63 bits below the sign; they grow with the magnitude. -/
structure Binary64 where
  negative : Bool
  bits : Nat
  finite : bits < 0x7FF0000000000000
deriving DecidableEq, Repr

namespace Binary64

/-- The magnitude is `significand · 2 ^ exponent` in units of `2 ^ (-1074)`. -/
def significand (x : Binary64) : Nat :=
  if x.bits < 0x10000000000000 then x.bits else 0x10000000000000 + x.bits % 0x10000000000000

def exponent (x : Binary64) : Nat :=
  x.bits / 0x10000000000000 - 1

def unitsInOne : Nat :=
  1 <<< 1074

def units (x : Binary64) : Nat :=
  x.significand <<< x.exponent

def isZero (x : Binary64) : Bool :=
  x.bits == 0

/-- The quotient as a whole number, a half going to the even one. -/
def roundHalfEven (num den : Nat) : Nat :=
  let whole := num / den
  let twice := 2 * (num % den)
  if den < twice ∨ (den = twice ∧ whole % 2 = 1) then whole + 1 else whole

/-- The bits of the double nearest to `num / den`. The significand has 53 bits unless the number is
too small for that; one that rounds up to 54 carries into the exponent by itself. -/
def nearestBits (num den : Nat) : Nat :=
  let scaled := num * unitsInOne
  let exponent := (scaled / den).log2 + 1 - 53
  exponent * 0x10000000000000 + roundHalfEven scaled (den <<< exponent)

def ofRatio? (negative : Bool) (num den : Nat) : Option Binary64 :=
  let bits := nearestBits num den
  if finite : bits < 0x7FF0000000000000 then some ⟨negative, bits, finite⟩ else none

def mul? (x y : Binary64) : Option Binary64 :=
  ofRatio? (x.negative != y.negative) (x.units * y.units) (unitsInOne * unitsInOne)

def div? (x y : Binary64) : Option Binary64 :=
  ofRatio? (x.negative != y.negative) x.units y.units

/-- The double nearest to a power of ten; there is none from `10 ^ 309` on. -/
def powerOfTen? (exponent : Nat) : Option Binary64 :=
  ofRatio? false (Nat.pow 10 exponent) 1

/-- `x · 10 ^ exponent` by one multiplication or division with a rounded power of ten, and, for
magnitudes that no power of ten reaches, by divisions by `10 ^ 308` first. -/
def scale? (x : Binary64) (exponent : Int) : Option Binary64 :=
  if exponent.natAbs ≤ 308 then do
    let power ← powerOfTen? exponent.natAbs
    if 0 ≤ exponent then x.mul? power else x.div? power
  else if x.isZero then
    some x
  else if 0 < exponent then
    none
  else do
    let power ← powerOfTen? 308
    let smaller ← x.div? power
    smaller.scale? (exponent + 308)
termination_by exponent.natAbs
decreasing_by omega

/-- The double read for `digits · 10 ^ exponent`: the digits are rounded, then their product with
the power of ten, so the last digit may differ from that of the nearest double. -/
def ofDecimal? (negative : Bool) (digits : Nat) (exponent : Int) : Option Binary64 := do
  let whole ← ofRatio? negative digits 1
  whole.scale? exponent

def zero (negative : Bool) : Binary64 :=
  ⟨negative, 0, by decide⟩

end Binary64

/-! ### The shortest decimal

The fewest digits that lie within the numbers rounding to a double, and of those with as few digits
the one nearest to it.
-/

/-- The number `digits · 10 ^ exponent`. -/
structure Decimal where
  digits : Nat
  exponent : Int
deriving DecidableEq, Repr

namespace Decimal

def digitCount (n : Nat) : Nat :=
  (Nat.toDigits 10 n).length

/-- The exponent of the first digit of `num / den`, for a positive ratio. -/
def leadingExponent (num den : Nat) : Int :=
  if den ≤ num then
    (digitCount (num / den) : Int) - 1
  else
    -(digitCount ((den + num - 1) / num - 1) : Int)

/-- Takes zeros off the end; `fuel` bounds how many. -/
def trimZeros : Nat → Decimal → Decimal
  | 0, d => d
  | fuel + 1, d =>
    if d.digits ≠ 0 ∧ d.digits % 10 = 0 then trimZeros fuel ⟨d.digits / 10, d.exponent + 1⟩ else d

end Decimal

namespace Binary64

/-- The numbers that round to `x`, in quarters of its last place times `2 ^ exponent`: the lower
half is narrower below a power of two. Both ends belong to it iff the significand is even. -/
structure RoundingInterval where
  low : Nat
  middle : Nat
  high : Nat
  closed : Bool

def roundingInterval (x : Binary64) : RoundingInterval :=
  let quarter := 1 <<< x.exponent
  let middle := 4 * x.units
  { low := middle - (if x.significand = 0x10000000000000 ∧ x.exponent ≠ 0 then 1 else 2) * quarter
    middle
    high := middle + 2 * quarter
    closed := x.significand % 2 == 0 }

/-- The better neighbour of `x` among the multiples of `10 ^ exponent`, if one rounds to `x`. -/
def onGrid? (x : Binary64) (exponent : Int) : Option Decimal :=
  let interval := x.roundingInterval
  let step := 4 * unitsInOne * Nat.pow 10 exponent.toNat
  let factor := Nat.pow 10 (-exponent).toNat
  let middle := interval.middle * factor
  let reads (n : Nat) : Bool :=
    if interval.closed then
      interval.low * factor ≤ n * step && n * step ≤ interval.high * factor
    else
      interval.low * factor < n * step && n * step < interval.high * factor
  let below := middle / step
  let above := below + 1
  let fromBelow := middle - below * step
  let toAbove := above * step - middle
  let belowFirst := fromBelow < toAbove || (fromBelow == toAbove && below % 2 == 0)
  if reads below && (belowFirst || !reads above) then some ⟨below, exponent⟩
  else if reads above then some ⟨above, exponent⟩
  else none

/-- The shortest decimal that reads as the magnitude of `x`. Seventeen digits always suffice. -/
def shortest (x : Binary64) : Decimal :=
  if x.isZero then
    ⟨0, 0⟩
  else
    let leading := Decimal.leadingExponent x.units unitsInOne
    let hit := (List.range 17).findSome? fun (more : Nat) => x.onGrid? (leading - (more : Int))
    (hit.getD ⟨0, 0⟩).trimZeros 17

end Binary64

end NaturalKey
