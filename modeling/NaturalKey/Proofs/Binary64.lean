import Mathlib.Tactic.Linarith
import Mathlib.Tactic.Positivity
import Mathlib.Tactic.Ring
import NaturalKey.Binary64

/-!
How far rounding goes. The nearest double is no further from a number than half a unit in its last
place, so a number below the largest double and half a unit has one, and dividing by what is not
less than one never leaves the range.
-/

set_option autoImplicit false

namespace NaturalKey.Binary64

theorem one_shiftLeft (places : Nat) : 1 <<< places = 2 ^ places :=
  Nat.one_shiftLeft places

theorem unitsInOne_eq : unitsInOne = 2 ^ 1074 :=
  one_shiftLeft 1074

theorem units_eq (x : Binary64) : x.units = x.significand * 2 ^ x.exponent :=
  Nat.shiftLeft_eq _ _

theorem unitsInOne_pos : 0 < unitsInOne := by
  rw [unitsInOne_eq]
  positivity

theorem roundHalfEven_bounds (num : Nat) {den : Nat} (pos : 0 < den) :
    2 * num ≤ 2 * (roundHalfEven num den * den) + den ∧
      2 * (roundHalfEven num den * den) ≤ 2 * num + den := by
  have parts := Nat.div_add_mod num den
  have small := Nat.mod_lt num pos
  simp only [roundHalfEven]
  generalize num / den = whole at parts ⊢
  generalize num % den = left at parts small ⊢
  subst parts
  split
  · rename_i up
    have half : den ≤ 2 * left := by omega
    constructor <;> nlinarith
  · rename_i down
    have half : 2 * left ≤ den := by omega
    constructor <;> nlinarith

/-- What the bits nearest to a number are made of: a significand of 53 bits, unless the number is
too small for that, and the exponent of its last place. -/
structure Parts (num den exponent significand : Nat) : Prop where
  bits : nearestBits num den = exponent * 2 ^ 52 + significand
  le : significand ≤ 2 ^ 53
  normal : exponent = 0 ∨ 2 ^ 52 ≤ significand ∧ den * 2 ^ exponent * 2 ^ 52 ≤ num * unitsInOne
  lower : 2 * (num * unitsInOne) ≤
    2 * (significand * (den * 2 ^ exponent)) + den * 2 ^ exponent
  upper : 2 * (significand * (den * 2 ^ exponent)) ≤
    2 * (num * unitsInOne) + den * 2 ^ exponent

theorem exists_parts (num : Nat) {den : Nat} (pos : 0 < den) :
    ∃ exponent significand, Parts num den exponent significand := by
  generalize scaledIs : num * unitsInOne = scaled
  generalize exponentIs : (scaled / den).log2 + 1 - 53 = exponent
  have placePos : 0 < den * 2 ^ exponent := Nat.mul_pos pos (Nat.two_pow_pos exponent)
  obtain ⟨lower, upper⟩ := roundHalfEven_bounds scaled placePos
  have above : scaled < den * 2 ^ exponent * 2 ^ 53 := by
    have bound : scaled / den < 2 ^ (exponent + 53) :=
      Nat.lt_of_lt_of_le Nat.lt_log2_self (Nat.pow_le_pow_right (by decide) (by omega))
    rw [Nat.mul_assoc, ← Nat.pow_add, Nat.mul_comm]
    exact (Nat.div_lt_iff_lt_mul pos).mp bound
  have below : exponent = 0 ∨ den * 2 ^ exponent * 2 ^ 52 ≤ scaled := by
    by_cases zero : exponent = 0
    · exact .inl zero
    · right
      have nonzero : scaled / den ≠ 0 := by
        intro none
        rw [none] at exponentIs
        simp at exponentIs
        omega
      have bound : 2 ^ (exponent + 52) ≤ scaled / den := by
        have same : exponent + 52 = (scaled / den).log2 := by omega
        rw [same]
        exact Nat.log2_self_le nonzero
      rw [Nat.mul_assoc, ← Nat.pow_add, Nat.mul_comm]
      exact (Nat.le_div_iff_mul_le pos).mp bound
  refine ⟨exponent, roundHalfEven scaled (den * 2 ^ exponent), ?_, ?_, ?_, ?_, ?_⟩
  · simp only [nearestBits, scaledIs, exponentIs, Nat.shiftLeft_eq, Nat.reducePow]
  · by_contra more
    nlinarith
  · rcases below with zero | below
    · exact .inl zero
    · refine .inr ⟨?_, by rwa [scaledIs]⟩
      by_contra less
      nlinarith
  · rwa [scaledIs]
  · rwa [scaledIs]

/-- The bits carry into the exponent by themselves. -/
theorem units_of_bits {x : Binary64} {exponent significand : Nat}
    (bits : x.bits = exponent * 2 ^ 52 + significand) (le : significand ≤ 2 ^ 53)
    (normal : exponent = 0 ∨ 2 ^ 52 ≤ significand) : x.units = significand * 2 ^ exponent := by
  rw [units_eq, Binary64.significand, Binary64.exponent]
  rcases Nat.lt_or_ge significand (2 ^ 52) with small | large
  · have zero : exponent = 0 := by omega
    subst zero
    have low : x.bits < 0x10000000000000 := by omega
    have first : x.bits / 0x10000000000000 - 1 = 0 := by omega
    rw [if_pos low, first]
    omega
  · have high : ¬x.bits < 0x10000000000000 := by omega
    rw [if_neg high]
    rcases Nat.lt_or_ge significand (2 ^ 53) with less | full
    · have same : 0x10000000000000 + x.bits % 0x10000000000000 = significand := by omega
      have place : x.bits / 0x10000000000000 - 1 = exponent := by omega
      rw [same, place]
    · have same : 0x10000000000000 + x.bits % 0x10000000000000 = 2 ^ 52 := by omega
      have place : x.bits / 0x10000000000000 - 1 = exponent + 1 := by omega
      have carried : significand = 2 ^ 52 * 2 := by omega
      rw [same, place, carried, Nat.pow_succ]
      ring

def topExponent : Nat := 971 + 1074

/-- Half a unit in the last place above the largest double, in half units: what is not below it has
no nearest double. -/
def overflow : Nat :=
  (2 ^ 54 - 1) * 2 ^ topExponent

theorem two_mul_units_lt_overflow (x : Binary64) : 2 * x.units < overflow := by
  have place : x.exponent ≤ topExponent := by
    have := x.finite
    simp only [Binary64.exponent, topExponent]
    omega
  have digits : x.significand ≤ 2 ^ 53 - 1 := by
    simp only [Binary64.significand]
    split <;> omega
  have scaled : 2 ^ x.exponent ≤ 2 ^ topExponent := Nat.pow_le_pow_right (by decide) place
  have pos : 0 < 2 ^ topExponent := Nat.two_pow_pos _
  have le : x.units ≤ (2 ^ 53 - 1) * 2 ^ topExponent := by
    rw [units_eq]
    exact Nat.mul_le_mul digits scaled
  rw [overflow]
  omega

section Ratio

variable {num den : Nat} (pos : 0 < den) (negative : Bool)

include pos

/-- Below the largest double and half a unit in its last place there is always a nearest double. -/
theorem exists_ofRatio? (h : 2 * (num * unitsInOne) < den * overflow) :
    ∃ x, ofRatio? negative num den = some x := by
  obtain ⟨exponent, significand, parts⟩ := exists_parts num pos
  have finite : nearestBits num den < 0x7FF0000000000000 := by
    rw [parts.bits]
    by_contra outside
    have le := parts.le
    have upper := parts.upper
    have room : 0 < den * 2 ^ topExponent := Nat.mul_pos pos (Nat.two_pow_pos _)
    rw [overflow, Nat.mul_left_comm den] at h
    rcases Nat.lt_or_ge topExponent exponent with beyond | within
    · have normal : exponent = 0 ∨ _ := parts.normal
      obtain ⟨-, large⟩ := normal.resolve_left (by omega)
      have doubled : 2 ^ topExponent * 2 ≤ 2 ^ exponent := by
        rw [← Nat.pow_succ]
        exact Nat.pow_le_pow_right (by decide) beyond
      have scaled := Nat.mul_le_mul_left den doubled
      rw [← Nat.mul_assoc] at scaled
      omega
    · have top : exponent = topExponent ∧ significand = 2 ^ 53 := by
        simp only [topExponent] at within ⊢
        omega
      obtain ⟨rfl, rfl⟩ := top
      omega
  refine ⟨⟨negative, nearestBits num den, finite⟩, ?_⟩
  rw [ofRatio?, dif_pos finite]

variable {negative} {x : Binary64} (h : ofRatio? negative num den = some x)

include h

theorem exists_units_of_ofRatio? :
    ∃ exponent significand, Parts num den exponent significand ∧
      x.units = significand * 2 ^ exponent := by
  obtain ⟨exponent, significand, parts⟩ := exists_parts num pos
  refine ⟨exponent, significand, parts, ?_⟩
  rw [ofRatio?] at h
  split at h
  · cases h
    exact units_of_bits parts.bits parts.le (parts.normal.imp_right And.left)
  · cases h

/-- From the least double with 53 bits on the error is small beside the number. -/
theorem units_bounds (normal : den * 2 ^ 53 ≤ num * unitsInOne) :
    2 ^ 53 * (x.units * den) ≤ (2 ^ 53 + 1) * (num * unitsInOne) ∧
      (2 ^ 53 - 1) * (num * unitsInOne) ≤ 2 ^ 53 * (x.units * den) := by
  obtain ⟨exponent, significand, parts, units⟩ := exists_units_of_ofRatio? pos h
  have lower := parts.lower
  have upper := parts.upper
  have value : x.units * den = significand * (den * 2 ^ exponent) := by
    rw [units]
    ring
  have place : den * 2 ^ exponent * 2 ^ 52 ≤ num * unitsInOne := by
    rcases parts.normal with zero | ⟨-, place⟩
    · rw [zero, Nat.pow_zero, Nat.mul_one]
      exact Nat.le_trans (Nat.mul_le_mul_left den (by decide)) normal
    · exact place
  rw [value]
  generalize num * unitsInOne = scaled at lower upper place ⊢
  constructor <;> omega

end Ratio

/-! ### Powers of ten -/

theorem two_pow_53_le {places : Nat} (h : 53 ≤ places) : 2 ^ 53 ≤ 2 ^ places :=
  Nat.pow_le_pow_right (by decide) h

theorem two_pow_53_le_unitsInOne : 2 ^ 53 ≤ unitsInOne := by
  rw [unitsInOne_eq]
  apply two_pow_53_le
  decide

theorem mul_two_pow_add (n a b : Nat) : n * 2 ^ (a + b) = n * 2 ^ a * 2 ^ b := by
  rw [Nat.pow_add, Nat.mul_assoc]

theorem overflow_eq_mul_unitsInOne : overflow = (2 ^ 54 - 1) * 2 ^ 971 * unitsInOne := by
  rw [overflow, topExponent, mul_two_pow_add, unitsInOne_eq]

theorem exists_ofRatio?_one (negative : Bool) {n : Nat} (h : 2 * n < (2 ^ 54 - 1) * 2 ^ 971) :
    ∃ x, ofRatio? negative n 1 = some x := by
  apply exists_ofRatio? Nat.one_pos
  have scaled := Nat.mul_lt_mul_of_pos_right h unitsInOne_pos
  rwa [Nat.one_mul, overflow_eq_mul_unitsInOne, ← Nat.mul_assoc]

theorem units_bounds_one {negative : Bool} {n : Nat} {x : Binary64} (pos : 0 < n)
    (h : ofRatio? negative n 1 = some x) :
    2 ^ 53 * x.units ≤ (2 ^ 53 + 1) * (n * unitsInOne) ∧
      (2 ^ 53 - 1) * (n * unitsInOne) ≤ 2 ^ 53 * x.units := by
  have normal : 1 * 2 ^ 53 ≤ n * unitsInOne := by
    rw [Nat.one_mul]
    exact Nat.le_trans two_pow_53_le_unitsInOne (Nat.le_mul_of_pos_left _ pos)
  have bounds := units_bounds Nat.one_pos h normal
  rwa [Nat.mul_one] at bounds

theorem exists_powerOfTen? {exponent : Nat} (h : exponent ≤ 308) :
    ∃ power, powerOfTen? exponent = some power ∧
      2 ^ 53 * power.units ≤ (2 ^ 53 + 1) * (10 ^ exponent * unitsInOne) ∧
      (0 < exponent → unitsInOne ≤ power.units) := by
  have largest : 2 * 10 ^ 308 < (2 ^ 54 - 1) * 2 ^ 971 := by decide +kernel
  have power (most : Nat) (le : exponent ≤ most) : 10 ^ exponent ≤ 10 ^ most :=
    Nat.pow_le_pow_right (by decide) le
  have power := power 308 h
  obtain ⟨power, found⟩ := exists_ofRatio?_one false (n := 10 ^ exponent) (by omega)
  obtain ⟨upper, lower⟩ := units_bounds_one (Nat.pow_pos (a := 10) (by decide)) found
  refine ⟨power, found, upper, fun positive => ?_⟩
  have ten : 10 ^ 1 ≤ 10 ^ exponent := Nat.pow_le_pow_right (by decide) positive
  have scaled := Nat.mul_le_mul_right unitsInOne ten
  omega

/-! ### Decimals -/

theorem exists_div? (x : Binary64) {y : Binary64} (h : unitsInOne ≤ y.units) :
    ∃ z, x.div? y = some z := by
  apply exists_ofRatio? (Nat.lt_of_lt_of_le unitsInOne_pos h)
  calc 2 * (x.units * unitsInOne) = 2 * x.units * unitsInOne := by rw [Nat.mul_assoc]
    _ < overflow * unitsInOne :=
      Nat.mul_lt_mul_of_pos_right x.two_mul_units_lt_overflow unitsInOne_pos
    _ ≤ overflow * y.units := Nat.mul_le_mul_left _ h
    _ = y.units * overflow := Nat.mul_comm _ _

theorem exists_scale?_of_neg (x : Binary64) {exponent : Int} (h : exponent < 0) :
    ∃ y, x.scale? exponent = some y := by
  induction size : exponent.natAbs using Nat.strongRecOn generalizing x exponent with
  | ind n ih =>
    subst size
    rw [scale?]
    by_cases small : exponent.natAbs ≤ 308
    · obtain ⟨power, found, -, large⟩ := exists_powerOfTen? small
      obtain ⟨y, divided⟩ := x.exists_div? (large (by omega))
      refine ⟨y, ?_⟩
      rw [if_pos small, found, Option.bind_eq_bind, Option.bind_some, if_neg (by omega), divided]
    · by_cases zero : x.isZero = true
      · exact ⟨x, by rw [if_neg small, if_pos zero]⟩
      · obtain ⟨power, found, -, large⟩ := exists_powerOfTen? (Nat.le_refl 308)
        obtain ⟨smaller, divided⟩ := x.exists_div? (large (by decide))
        obtain ⟨y, rest⟩ := ih (exponent + 308).natAbs (by omega) smaller (by omega) rfl
        refine ⟨y, ?_⟩
        rw [if_neg small, if_neg zero, if_neg (by omega), found, Option.bind_eq_bind,
          Option.bind_some, divided, Option.bind_some, rest]

theorem exists_ofRatio?_digits (negative : Bool) {digits : Nat} (h : digits < 2 ^ 64) :
    ∃ x, ofRatio? negative digits 1 = some x := by
  have largest : 2 * 2 ^ 64 < (2 ^ 54 - 1) * 2 ^ 971 := by decide +kernel
  exact exists_ofRatio?_one negative (by omega)

theorem exists_ofDecimal?_of_neg (negative : Bool) {digits : Nat} (h : digits < 2 ^ 64)
    {exponent : Int} (down : exponent < 0) :
    ∃ x, ofDecimal? negative digits exponent = some x := by
  obtain ⟨whole, found⟩ := exists_ofRatio?_digits negative h
  obtain ⟨x, scaled⟩ := whole.exists_scale?_of_neg down
  refine ⟨x, ?_⟩
  rw [ofDecimal?, found, Option.bind_eq_bind, Option.bind_some, scaled]

theorem scale?_of_small (x : Binary64) {exponent : Nat} (h : exponent ≤ 308) :
    x.scale? exponent = (powerOfTen? exponent).bind x.mul? := by
  have upward : 0 ≤ (exponent : Int) := Int.natCast_nonneg exponent
  rw [scale?, Int.natAbs_natCast, if_pos h, Option.bind_eq_bind]
  simp only [if_pos upward]

/-- Three roundings, of the digits, of the power of ten and of their product, keep a number in range
that is far enough below the largest double. -/
theorem exists_ofDecimal?_of_lt (negative : Bool) {digits exponent : Nat} (pos : 0 < digits)
    (h : digits < 2 ^ 64) (small : exponent ≤ 308)
    (room : (2 ^ 53 + 1) ^ 2 * (2 * (digits * 10 ^ exponent * unitsInOne)) < 2 ^ 106 * overflow) :
    ∃ x, ofDecimal? negative digits exponent = some x := by
  obtain ⟨whole, found⟩ := exists_ofRatio?_digits negative h
  obtain ⟨power, found', upper', -⟩ := exists_powerOfTen? small
  obtain ⟨upper, -⟩ := units_bounds_one pos found
  have product : ∃ x, whole.mul? power = some x := by
    apply exists_ofRatio? (Nat.mul_pos unitsInOne_pos unitsInOne_pos)
    have both := Nat.mul_le_mul upper upper'
    have scaled := Nat.mul_lt_mul_of_pos_right room unitsInOne_pos
    have onePos := unitsInOne_pos
    generalize unitsInOne = one at both scaled onePos ⊢
    have bound : 2 ^ 106 * (2 * (whole.units * power.units)) < 2 ^ 106 * (overflow * one) := by
      calc 2 ^ 106 * (2 * (whole.units * power.units))
          = 2 * (2 ^ 53 * whole.units * (2 ^ 53 * power.units)) := by ring
        _ ≤ 2 * ((2 ^ 53 + 1) * (digits * one) * ((2 ^ 53 + 1) * (10 ^ exponent * one))) :=
          Nat.mul_le_mul_left _ both
        _ = (2 ^ 53 + 1) ^ 2 * (2 * (digits * 10 ^ exponent * one)) * one := by ring
        _ < 2 ^ 106 * overflow * one := scaled
        _ = 2 ^ 106 * (overflow * one) := by ring
    have below := Nat.mul_lt_mul_of_pos_right (Nat.lt_of_mul_lt_mul_left bound) onePos
    calc 2 * (whole.units * power.units * one) = 2 * (whole.units * power.units) * one := by ring
      _ < overflow * one * one := below
      _ = one * one * overflow := by ring
  obtain ⟨x, scaled⟩ := product
  refine ⟨x, ?_⟩
  rw [ofDecimal?, found, Option.bind_eq_bind, Option.bind_some, scale?_of_small whole small, found',
    Option.bind_some, scaled]

end NaturalKey.Binary64
