import NaturalKey.Binary64
import NaturalKey.Proofs.Binary64

/-!
What the shortest decimal of a double is like. It has at most seventeen digits and is zero only with
the exponent zero, so its digits can be collected; and it does not lie above the numbers that round
to the double, so it can be read again.
-/

set_option autoImplicit false

namespace NaturalKey

namespace Decimal

/-! ### Digits -/

theorem lt_ten_pow_digitCount (n : Nat) : n < 10 ^ digitCount n :=
  (Nat.length_toDigits_le_iff (by decide) Nat.length_toDigits_pos).mp (Nat.le_refl _)

theorem digitCount_pos (n : Nat) : 0 < digitCount n :=
  Nat.length_toDigits_pos

theorem ten_pow_le {n : Nat} (h : 0 < n) : 10 ^ (digitCount n - 1) ≤ n := by
  rcases Nat.eq_zero_or_pos (digitCount n - 1) with zero | positive
  · rw [zero]
    exact h
  · by_contra less
    have fewer := (Nat.length_toDigits_le_iff (by decide) positive).mpr (Nat.not_le.mp less)
    have := digitCount_pos n
    rw [← digitCount] at fewer
    omega

theorem digitCount_le {n bound : Nat} (pos : 0 < bound) (h : n < 2 ^ bound) :
    digitCount n ≤ bound := by
  apply (Nat.length_toDigits_le_iff (by decide) pos).mpr
  exact Nat.lt_of_lt_of_le h (Nat.pow_le_pow_left (by decide) bound)

theorem lt_of_leadingExponent {num den : Nat} (numPos : 0 < num) (denPos : 0 < den) :
    num * 10 ^ (-(leadingExponent num den + 1)).toNat <
      den * 10 ^ (leadingExponent num den + 1).toNat := by
  rw [leadingExponent]
  split
  · have count := digitCount_pos (num / den)
    have below := lt_ten_pow_digitCount (num / den)
    have up : ((digitCount (num / den) : Int) - 1 + 1).toNat = digitCount (num / den) := by omega
    have down : (-((digitCount (num / den) : Int) - 1 + 1)).toNat = 0 := by omega
    rw [up, down, Nat.pow_zero, Nat.mul_one, Nat.mul_comm]
    exact (Nat.div_lt_iff_lt_mul denPos).mp below
  · rename_i small
    generalize quotientIs : (den + num - 1) / num - 1 = quotient
    have ceiling : 2 ≤ (den + num - 1) / num := by
      rw [Nat.le_div_iff_mul_le numPos]
      omega
    have count := digitCount_pos quotient
    have above := ten_pow_le (n := quotient) (by omega)
    have up : (-(digitCount quotient : Int) + 1).toNat = 0 := by omega
    have down : (-(-(digitCount quotient : Int) + 1)).toNat = digitCount quotient - 1 := by omega
    rw [up, down, Nat.pow_zero, Nat.mul_one]
    have whole : (den + num - 1) / num * num ≤ den + num - 1 := Nat.div_mul_le_self _ _
    have parts : (quotient + 1) * num ≤ den + num - 1 := by
      have same : quotient + 1 = (den + num - 1) / num := by omega
      rwa [same]
    have scaled := Nat.mul_le_mul_right num above
    rw [Nat.add_mul, Nat.one_mul] at parts
    rw [Nat.mul_comm num]
    omega

theorem natAbs_leadingExponent_le {num den bound : Nat} (numPos : 0 < num) (pos : 0 < bound)
    (hn : num < 2 ^ bound) (hd : den < 2 ^ bound) :
    (leadingExponent num den).natAbs ≤ bound := by
  rw [leadingExponent]
  split
  · have quotient : num / den < 2 ^ bound := Nat.lt_of_le_of_lt (Nat.div_le_self _ _) hn
    have count := digitCount_le pos quotient
    have := digitCount_pos (num / den)
    omega
  · rename_i small
    have quotient : (den + num - 1) / num - 1 < 2 ^ bound := by
      have le : (den + num - 1) / num ≤ den := by
        apply Nat.div_le_of_le_mul
        obtain ⟨less, rfl⟩ := Nat.exists_eq_succ_of_ne_zero (Nat.ne_of_gt numPos)
        have product := Nat.le_mul_of_pos_right less (by omega : 0 < den)
        rw [Nat.succ_mul]
        omega
      omega
    have count := digitCount_le pos quotient
    omega

/-! ### Zeros at the end -/

/-- Taking zeros off the end changes neither the value nor, unless it is zero, whether it is. -/
theorem trimZeros_spec (fuel : Nat) (d : Decimal) {offset : Nat} (h : 0 ≤ d.exponent + offset) :
    (d.trimZeros fuel).digits * 10 ^ ((d.trimZeros fuel).exponent + offset).toNat =
        d.digits * 10 ^ (d.exponent + offset).toNat ∧
      (d.trimZeros fuel).digits ≤ d.digits ∧
      (d.digits ≠ 0 → (d.trimZeros fuel).digits ≠ 0) ∧
      d.exponent ≤ (d.trimZeros fuel).exponent ∧
      (d.trimZeros fuel).exponent ≤ d.exponent + fuel := by
  induction fuel generalizing d with
  | zero => simp [trimZeros]
  | succ fuel ih =>
    rw [trimZeros]
    split
    · rename_i more
      obtain ⟨value, le, nonzero, above, below⟩ := ih ⟨d.digits / 10, d.exponent + 1⟩ (by
        simp only
        omega)
      simp only at value le nonzero above below
      refine ⟨?_, by omega, fun _ => nonzero (by omega), by omega, by omega⟩
      have up : (d.exponent + 1 + offset).toNat = (d.exponent + offset).toNat + 1 := by omega
      have whole : d.digits / 10 * 10 = d.digits := by omega
      rw [value, up, Nat.pow_succ, Nat.mul_comm _ 10, ← Nat.mul_assoc, whole]
    · exact ⟨rfl, Nat.le_refl _, id, by omega, by omega⟩

end Decimal

namespace Binary64

/-! ### The numbers that round to a double -/

theorem significand_pos {x : Binary64} (h : x.isZero = false) : 0 < x.significand := by
  have nonzero : x.bits ≠ 0 := by simpa [isZero] using h
  simp only [significand]
  split <;> omega

theorem units_pos {x : Binary64} (h : x.isZero = false) : 0 < x.units := by
  rw [units_eq]
  exact Nat.mul_pos (significand_pos h) (Nat.two_pow_pos _)

/-- No double has more units than this many bits hold. -/
def unitBits : Nat := 54 + topExponent

theorem units_lt (x : Binary64) : x.units < 2 ^ unitBits := by
  have half := x.two_mul_units_lt_overflow
  have le : overflow ≤ 2 ^ unitBits := by
    rw [overflow, unitBits, Nat.pow_add]
    generalize 2 ^ topExponent = top
    omega
  omega

theorem unitsInOne_lt : unitsInOne < 2 ^ unitBits := by
  have lt {a b : Nat} (h : a < b) : 2 ^ a < 2 ^ b := Nat.pow_lt_pow_right (by decide) h
  rw [unitsInOne_eq]
  apply lt
  decide

theorem low_pos {x : Binary64} (h : x.isZero = false) : 0 < x.roundingInterval.low := by
  have place : 0 < 2 ^ x.exponent := Nat.two_pow_pos _
  have room : 2 ^ x.exponent ≤ x.units := by
    rw [units_eq]
    exact Nat.le_mul_of_pos_left _ (significand_pos h)
  simp only [roundingInterval, one_shiftLeft]
  split <;> omega

/-- What is found on a grid lies at the double or next to it, and not above the numbers that round
to it. -/
theorem onGrid?_spec {x : Binary64} (h : x.isZero = false) {exponent : Int} {d : Decimal}
    (found : x.onGrid? exponent = some d) :
    d.exponent = exponent ∧ d.digits ≠ 0 ∧
      d.digits * (4 * unitsInOne * 10 ^ exponent.toNat) ≤
        x.roundingInterval.high * 10 ^ (-exponent).toNat ∧
      (d.digits - 1) * (4 * unitsInOne * 10 ^ exponent.toNat) ≤
        4 * x.units * 10 ^ (-exponent).toNat := by
  have factorPos : 0 < 10 ^ (-exponent).toNat := Nat.pow_pos (a := 10) (by decide)
  have lowPos := Nat.mul_pos (low_pos h) factorPos
  unfold onGrid? at found
  extract_lets interval step factor middle reads below above fromBelow toAbove belowFirst at found
  have reads_spec : ∀ n, reads n = true →
      n ≠ 0 ∧ n * step ≤ x.roundingInterval.high * factor := by
    intro n within
    simp only [reads] at within
    split at within
    · simp only [Bool.and_eq_true, decide_eq_true_eq] at within
      refine ⟨?_, within.2⟩
      rintro rfl
      have below := within.1
      rw [Nat.zero_mul] at below
      exact absurd lowPos (Nat.not_lt.mpr below)
    · simp only [Bool.and_eq_true, decide_eq_true_eq] at within
      refine ⟨?_, Nat.le_of_lt within.2⟩
      rintro rfl
      have below := within.1
      rw [Nat.zero_mul] at below
      exact absurd below (Nat.not_lt_zero _)
  have start : below * step ≤ middle := Nat.div_mul_le_self _ _
  split at found
  · rename_i chosen
    obtain ⟨nonzero, high⟩ := reads_spec below (by simp_all)
    cases found
    refine ⟨rfl, nonzero, high, ?_⟩
    exact Nat.le_trans (Nat.mul_le_mul_right _ (Nat.sub_le _ _)) start
  · split at found
    · rename_i chosen
      obtain ⟨nonzero, high⟩ := reads_spec above chosen
      cases found
      exact ⟨rfl, nonzero, high, start⟩
    · cases found

/-- Seventeen digits at most are ever collected. -/
theorem digits_le_of_onGrid? {x : Binary64} (h : x.isZero = false) {more : Nat} {d : Decimal}
    (found : x.onGrid? (Decimal.leadingExponent x.units unitsInOne - more) = some d) :
    d.digits ≤ 10 ^ (more + 1) := by
  obtain ⟨-, -, -, near⟩ := onGrid?_spec h found
  have leading := Decimal.lt_of_leadingExponent (units_pos h) unitsInOne_pos
  generalize Decimal.leadingExponent x.units unitsInOne = exponent at near leading
  by_contra many
  have places : (exponent + 1).toNat + (-(exponent - more)).toNat =
      (-(exponent + 1)).toNat + (exponent - more).toNat + (more + 1) := by
    omega
  have digits : 10 ^ (more + 1) ≤ d.digits - 1 := by omega
  have grid := Nat.le_trans (Nat.mul_le_mul_right _ digits) near
  have factorPos : 0 < 10 ^ (-(exponent - more)).toNat := Nat.pow_pos (a := 10) (by decide)
  have scaled := Nat.mul_lt_mul_of_pos_right leading factorPos
  rw [Nat.mul_assoc unitsInOne, ← Nat.pow_add, places, Nat.pow_add, Nat.pow_add] at scaled
  have both := Nat.mul_le_mul_left (10 ^ (-(exponent + 1)).toNat) grid
  generalize unitsInOne = one at both scaled
  linarith

/-- The shortest decimal of a double that is not zero has the form it is found in. -/
structure Short (x : Binary64) (d : Decimal) : Prop where
  le : d.digits ≤ 10 ^ 17
  zero : d.digits = 0 → d.exponent = 0
  exponent : d.exponent.natAbs ≤ unitBits + 33
  high : ∀ up : Nat, d.exponent = up →
    d.digits * 10 ^ up * (4 * unitsInOne) ≤ x.roundingInterval.high

theorem short_shortest (x : Binary64) : Short x x.shortest := by
  rw [shortest]
  have zero : Short x ⟨0, 0⟩ := ⟨by simp, by simp, by simp, by simp⟩
  cases isZero : x.isZero with
  | true => exact zero
  | false =>
    simp only [Bool.false_eq_true, if_false]
    cases hit : (List.range 17).findSome? fun (more : Nat) =>
        x.onGrid? (Decimal.leadingExponent x.units unitsInOne - (more : Int)) with
    | none => exact zero
    | some d =>
      obtain ⟨more, among, found⟩ := List.exists_of_findSome?_eq_some hit
      have few : more < 17 := List.mem_range.mp among
      have bits : 0 < unitBits := by decide
      have leading := Decimal.natAbs_leadingExponent_le (units_pos isZero) bits x.units_lt
        unitsInOne_lt
      have digits := digits_le_of_onGrid? isZero found
      obtain ⟨grid, nonzero, high, -⟩ := onGrid?_spec isZero found
      generalize Decimal.leadingExponent x.units unitsInOne = first at leading grid high
      have power : 10 ^ (more + 1) ≤ 10 ^ 17 := Nat.pow_le_pow_right (by decide) (by omega)
      obtain ⟨value, le, kept, above, below⟩ := d.trimZeros_spec 17
        (by omega : 0 ≤ d.exponent + (-d.exponent).toNat)
      rw [Option.getD_some]
      refine ⟨by omega, fun none => absurd none (kept nonzero), by omega, ?_⟩
      intro up same
      have up' : ((up : Int) + (-d.exponent).toNat).toNat = up + (-d.exponent).toNat := by omega
      have grid' : (d.exponent + (-d.exponent).toNat).toNat = d.exponent.toNat := by omega
      rw [same, up', grid', Nat.pow_add, ← Nat.mul_assoc] at value
      rw [← grid] at high
      apply Nat.le_of_mul_le_mul_right _
        (Nat.pow_pos (a := 10) (n := (-d.exponent).toNat) (by decide))
      calc (d.trimZeros 17).digits * 10 ^ up * (4 * unitsInOne) * 10 ^ (-d.exponent).toNat
          = (d.trimZeros 17).digits * 10 ^ up * 10 ^ (-d.exponent).toNat * (4 * unitsInOne) := by
            rw [Nat.mul_right_comm]
        _ = d.digits * (4 * unitsInOne * 10 ^ d.exponent.toNat) := by
            rw [value, Nat.mul_assoc, Nat.mul_comm (10 ^ _)]
        _ ≤ x.roundingInterval.high * 10 ^ (-d.exponent).toNat := high

/-! ### Reading it again -/

theorem ofDecimal?_of_small (negative : Bool) (digits : Nat) {exponent : Nat}
    (h : exponent ≤ 308) :
    ofDecimal? negative digits exponent =
      (ofRatio? negative digits 1).bind fun whole => (powerOfTen? exponent).bind whole.mul? := by
  rw [ofDecimal?, Option.bind_eq_bind]
  cases ofRatio? negative digits 1 with
  | none => rw [Option.bind_none, Option.bind_none]
  | some whole => rw [Option.bind_some, Option.bind_some, whole.scale?_of_small h]

theorem shortest_largest (negative : Bool) :
    (⟨negative, 0x7FF0000000000000 - 1, by decide⟩ : Binary64).shortest = ⟨17976931348623157, 292⟩ ∧
      (⟨negative, 0x7FF0000000000000 - 2, by decide⟩ : Binary64).shortest =
        ⟨17976931348623155, 292⟩ := by
  cases negative <;> decide +kernel

theorem isSome_largest (negative : Bool) :
    ((ofRatio? negative 17976931348623157 1).bind fun whole =>
        (powerOfTen? 292).bind whole.mul?).isSome = true ∧
      ((ofRatio? negative 17976931348623155 1).bind fun whole =>
        (powerOfTen? 292).bind whole.mul?).isSome = true := by
  cases negative <;> decide +kernel

theorem exists_ofDecimal?_largest {x : Binary64} (h : 0x7FF0000000000000 ≤ x.bits + 2) :
    ∃ y, ofDecimal? x.negative x.shortest.digits x.shortest.exponent = some y := by
  obtain ⟨negative, bits, finite⟩ := x
  obtain ⟨first, second⟩ := shortest_largest negative
  obtain ⟨some, some'⟩ := isSome_largest negative
  have small : 292 ≤ 308 := by decide
  simp only at h
  obtain rfl | rfl : bits = 0x7FF0000000000000 - 1 ∨ bits = 0x7FF0000000000000 - 2 := by omega
  · rw [first]
    rw [← ofDecimal?_of_small negative 17976931348623157 small] at some
    exact Option.isSome_iff_exists.mp some
  · rw [second]
    rw [← ofDecimal?_of_small negative 17976931348623155 small] at some'
    exact Option.isSome_iff_exists.mp some'

/-- What lies not above the numbers that round to a double, the two largest doubles apart, leaves
room for the roundings of reading it. -/
theorem room_of_high {x : Binary64} (h : x.bits + 2 < 0x7FF0000000000000) {n : Nat}
    (high : n * (4 * unitsInOne) ≤ x.roundingInterval.high) :
    (2 ^ 53 + 1) ^ 2 * (2 * (n * unitsInOne)) < 2 ^ 106 * overflow := by
  have place : 0 < 2 ^ topExponent := Nat.two_pow_pos _
  have middle : 2 * (n * unitsInOne) ≤ (2 * x.significand + 1) * 2 ^ x.exponent := by
    simp only [roundingInterval, one_shiftLeft, units_eq] at high
    nlinarith
  have cases : x.significand ≤ 2 ^ 53 - 1 ∧ x.exponent < topExponent ∨
      x.significand ≤ 2 ^ 53 - 3 ∧ x.exponent ≤ topExponent := by
    simp only [Binary64.significand, Binary64.exponent, topExponent]
    split <;> omega
  rw [overflow]
  rcases cases with ⟨digits, below⟩ | ⟨digits, top⟩
  · have half : 2 ^ x.exponent * 2 ≤ 2 ^ topExponent := by
      rw [← Nat.pow_succ]
      exact Nat.pow_le_pow_right (by decide) below
    have product : (2 * x.significand + 1) * (2 ^ x.exponent * 2) ≤
        (2 ^ 54 - 1) * 2 ^ topExponent :=
      Nat.mul_le_mul (by omega) half
    rw [← Nat.mul_assoc] at product
    generalize 2 ^ topExponent = top at place product ⊢
    generalize (2 * x.significand + 1) * 2 ^ x.exponent = ends at middle product
    generalize n * unitsInOne = value at middle ⊢
    omega
  · have scaled : 2 ^ x.exponent ≤ 2 ^ topExponent := Nat.pow_le_pow_right (by decide) top
    have product : (2 * x.significand + 1) * 2 ^ x.exponent ≤ (2 ^ 54 - 5) * 2 ^ topExponent :=
      Nat.mul_le_mul (by omega) scaled
    generalize 2 ^ topExponent = top at place product ⊢
    generalize (2 * x.significand + 1) * 2 ^ x.exponent = ends at middle product
    generalize n * unitsInOne = value at middle ⊢
    omega

theorem le_of_room {digits up : Nat} (pos : 0 < digits)
    (room : (2 ^ 53 + 1) ^ 2 * (2 * (digits * 10 ^ up * unitsInOne)) < 2 ^ 106 * overflow) :
    up ≤ 308 := by
  by_contra large
  have beyond : 2 ^ 106 * ((2 ^ 54 - 1) * 2 ^ 971) ≤ (2 ^ 53 + 1) ^ 2 * (2 * 10 ^ 309) := by
    decide +kernel
  have power {least : Nat} (h : least ≤ up) : 10 ^ least ≤ digits * 10 ^ up :=
    Nat.le_trans (Nat.pow_le_pow_right (by decide) h) (Nat.le_mul_of_pos_left _ pos)
  have reached := power (Nat.lt_of_not_le large)
  have bound : (2 ^ 53 + 1) ^ 2 * (2 * (digits * 10 ^ up)) * unitsInOne <
      2 ^ 106 * ((2 ^ 54 - 1) * 2 ^ 971) * unitsInOne := by
    rw [Nat.mul_assoc, Nat.mul_assoc 2, Nat.mul_assoc (2 ^ 106), ← overflow_eq_mul_unitsInOne]
    exact room
  have below := Nat.lt_of_mul_lt_mul_right bound
  omega

theorem exists_ofDecimal?_shortest (x : Binary64) (nonzero : x.shortest.digits ≠ 0) {up : Nat}
    (same : x.shortest.exponent = up) :
    ∃ y, ofDecimal? x.negative x.shortest.digits up = some y := by
  have short := x.short_shortest
  rcases Nat.lt_or_ge (x.bits + 2) (0x7FF0000000000000) with ordinary | largest
  · have room := room_of_high ordinary (short.high up same)
    apply exists_ofDecimal?_of_lt x.negative (Nat.pos_of_ne_zero nonzero) _ _ room
    · have := short.le
      omega
    · exact le_of_room (Nat.pos_of_ne_zero nonzero) room
  · rw [← same]
    exact exists_ofDecimal?_largest largest

end Binary64

end NaturalKey
