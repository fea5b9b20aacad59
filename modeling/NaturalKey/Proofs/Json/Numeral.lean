import NaturalKey.Json.Numeral
import NaturalKey.Json.Text
import NaturalKey.Proofs.Json.Reader
import NaturalKey.Proofs.Text.Utf8

/-!
Reading the numerals that are written. The digits of a number are taken one by one as long as 64
bits hold what they come to, so the digits of an integer of 64 bits are taken to the last one.
-/

set_option autoImplicit false

namespace NaturalKey.Json

/-- The bytes do not go on a numeral. -/
def EndsNumeral (rest : List UInt8) : Prop :=
  ∀ b more, rest = b :: more → isDigit b = false ∧ b ≠ 0x2E ∧ isExponentLetter b = false

theorem EndsNumeral.startsWithDigit {rest : List UInt8} (h : EndsNumeral rest) :
    startsWithDigit rest = false := by
  cases rest with
  | nil => rfl
  | cons b more => exact (h b more rfl).1

theorem endsNumeral_nil : EndsNumeral [] := nofun

theorem endsNumeral_cons {b : UInt8} (rest : List UInt8)
    (h : isDigit b = false ∧ b ≠ 0x2E ∧ isExponentLetter b = false) : EndsNumeral (b :: rest) := by
  intro c more equal
  cases equal
  exact h

theorem dropDigits_of_not_startsWithDigit {bytes : List UInt8}
    (h : startsWithDigit bytes = false) : dropDigits bytes = bytes := by
  cases bytes with
  | nil => rfl
  | cons b rest =>
    simp only [startsWithDigit] at h
    simp [dropDigits, h]

/-! ### Digits -/

def digitBytes (digits : List Char) : List UInt8 :=
  digits.map fun c => .ofNat c.toNat

theorem toNat_of_isDigit {c : Char} (h : c.isDigit = true) : 0x30 ≤ c.toNat ∧ c.toNat ≤ 0x39 := by
  simp only [Char.isDigit, Bool.and_eq_true, decide_eq_true_eq, ge_iff_le, UInt32.le_iff_toNat_le]
    at h
  exact h

theorem toNat_digitByte {c : Char} (h : c.isDigit = true) :
    (UInt8.ofNat c.toNat).toNat = c.toNat := by
  have := toNat_of_isDigit h
  rw [UInt8.toNat_ofNat']
  omega

theorem isDigit_digitByte {c : Char} (h : c.isDigit = true) :
    isDigit (.ofNat c.toNat) = true := by
  have := toNat_of_isDigit h
  simp only [isDigit, Bool.and_eq_true, decide_eq_true_eq, UInt8.le_iff_toNat_le,
    toNat_digitByte h]
  exact this

theorem digitValue_digitByte {c : Char} (h : c.isDigit = true) :
    digitValue (.ofNat c.toNat) = c.toNat - '0'.toNat := by
  rw [digitValue, toNat_digitByte h]
  rfl

theorem digitByte_ne_zero {c : Char} (digit : c.isDigit = true) (notZero : c ≠ '0') :
    UInt8.ofNat c.toNat ≠ 0x30 := by
  intro equal
  apply notZero
  apply Char.toNat_inj.mp
  rw [← toNat_digitByte digit, equal]
  rfl

theorem flatMap_encodeChar_digits {digits : List Char} (h : ∀ c ∈ digits, c.isDigit = true) :
    digits.flatMap Utf8.encodeChar = digitBytes digits := by
  induction digits with
  | nil => rfl
  | cons c digits ih =>
    have := toNat_of_isDigit (h c (by simp))
    rw [List.flatMap_cons, ih fun d member => h d (by simp [member]), Utf8.encodeChar,
      if_pos (by omega)]
    rfl

theorem le_ofDigitChars (digits : List Char) (value : Nat) :
    value ≤ Nat.ofDigitChars 10 digits value := by
  induction digits generalizing value with
  | nil => simp
  | cons c digits ih =>
    rw [Nat.ofDigitChars_cons]
    exact Nat.le_trans (by omega) (ih _)

/-- Digits are all taken if the limit holds what they come to. -/
theorem takeDigits_digitBytes {limit : Nat} {digits : List Char}
    (allDigits : ∀ c ∈ digits, c.isDigit = true) {rest : List UInt8}
    (ends : startsWithDigit rest = false) (value count : Nat)
    (below : Nat.ofDigitChars 10 digits value < limit) :
    takeDigits limit ⟨value, count, digitBytes digits ++ rest⟩ =
      ⟨Nat.ofDigitChars 10 digits value, count + digits.length, rest⟩ := by
  simp only [takeDigits]
  induction digits generalizing value count with
  | nil =>
    cases rest with
    | nil => rfl
    | cons b rest =>
      simp only [startsWithDigit] at ends
      simp [digitBytes, takeDigits.go, ends]
  | cons c digits ih =>
    have digit : c.isDigit = true := allDigits c (by simp)
    rw [Nat.ofDigitChars_cons] at below ⊢
    have next : value * 10 + digitValue (.ofNat c.toNat) = 10 * value + (c.toNat - '0'.toNat) := by
      rw [digitValue_digitByte digit, Nat.mul_comm]
    have small : 10 * value + (c.toNat - '0'.toNat) < limit :=
      Nat.lt_of_le_of_lt (le_ofDigitChars digits _) below
    simp only [digitBytes, List.map_cons, List.cons_append, takeDigits.go, next,
      isDigit_digitByte digit, Bool.true_and, decide_eq_true small, if_true]
    have rest := ih (fun d member => allDigits d (by simp [member])) _ (count + 1) below
    simp only [digitBytes] at rest
    rw [rest, List.length_cons]
    congr 1
    omega

theorem head_toDigits_ne {n : Nat} (positive : 0 < n) {c : Char} {more : List Char}
    (h : Nat.toDigits 10 n = c :: more) : c ≠ '0' := by
  induction n using Nat.strongRecOn generalizing c more with
  | ind n ih =>
    rcases Nat.lt_or_ge n 10 with small | large
    · rw [Nat.toDigits_of_lt_base small] at h
      cases h
      have : ∀ m, m < 10 → 0 < m → m.digitChar ≠ '0' := by decide
      exact this n small positive
    · rw [Nat.toDigits_of_base_le (by omega) large] at h
      cases first : Nat.toDigits 10 (n / 10) with
      | nil => exact absurd first Nat.toDigits_ne_nil
      | cons d others =>
        rw [first] at h
        cases h
        exact ih (n / 10) (by omega) (by omega) first

/-! ### Numerals -/

/-- The whole part of a numeral: digits, of which only a lone one may be a leading zero. -/
structure WholePart (digits : List Char) : Prop where
  nonempty : digits ≠ []
  allDigits : ∀ c ∈ digits, c.isDigit = true
  noLeadingZero : ∀ more, digits = '0' :: more → more = []

theorem wholePart_toDigits (n : Nat) : WholePart (Nat.toDigits 10 n) where
  nonempty := Nat.toDigits_ne_nil
  allDigits _ member := Nat.isDigit_of_mem_toDigits (by omega) (by omega) member
  noLeadingZero more h := by
    rcases Nat.eq_zero_or_pos n with rfl | positive
    · rw [Nat.toDigits_zero] at h
      cases h
      rfl
    · exact absurd rfl (head_toDigits_ne positive h)

theorem agrees_numeral {negative : Bool} {b : UInt8} {rest after : List UInt8} {taken : Digits}
    {expected : Except Cause Number} (notZero : b ≠ 0x30) (digit : isDigit b = true)
    (take : takeDigits digitLimit ⟨digitValue b, 1, rest⟩ = taken)
    (outcome : Agrees (afterWhole negative taken.value
        (taken.rest.length - (dropDigits taken.rest).length) (dropDigits taken.rest))
      expected after) :
    Agrees (numeral negative (b :: rest)) expected after := by
  subst take
  rw [numeral, if_neg notZero, if_pos digit]
  dsimp only
  generalize afterWhole negative _ _ _ = read at outcome ⊢
  cases read with
  | error stop => exact outcome.of_error
  | ok step => exact outcome.weaken _

theorem takes_numeral_of_afterWhole {negative : Bool} {digits : List Char}
    (whole : WholePart digits) (below : Nat.ofDigitChars 10 digits 0 < digitLimit)
    {more rest : List UInt8} (ends : startsWithDigit more = false) {number : Number}
    (taken : Takes (afterWhole negative (Nat.ofDigitChars 10 digits 0) 0 more) number rest) :
    Takes (numeral negative (digitBytes digits ++ more)) number rest := by
  obtain ⟨nonempty, allDigits, noLeadingZero⟩ := whole
  cases digits with
  | nil => contradiction
  | cons c digits =>
    have digit : c.isDigit = true := allDigits c (by simp)
    by_cases zero : c = '0'
    · subst zero
      obtain rfl := noLeadingZero digits rfl
      have bytes : digitBytes ['0'] ++ more = 0x30 :: more := rfl
      have value : Nat.ofDigitChars 10 ['0'] 0 = 0 := rfl
      rw [value] at taken
      rw [bytes, numeral, if_pos rfl, if_neg (by simp [ends])]
      exact taken
    · have bytes : digitBytes (c :: digits) ++ more =
          .ofNat c.toNat :: (digitBytes digits ++ more) := rfl
      have notZero := digitByte_ne_zero digit zero
      have first : digitValue (.ofNat c.toNat) = 10 * 0 + (c.toNat - '0'.toNat) := by
        rw [digitValue_digitByte digit]
        omega
      rw [Nat.ofDigitChars_cons, ← first] at below taken
      have others := takeDigits_digitBytes (fun d member => allDigits d (by simp [member])) ends
        (digitValue (.ofNat c.toNat)) 1 below
      rw [bytes]
      apply Agrees.takes
      apply agrees_numeral notZero (isDigit_digitByte digit) others
      rw [dropDigits_of_not_startsWithDigit ends, Nat.sub_self]
      exact taken.agrees

theorem agrees_afterWhole_of_ends {negative : Bool} {digits dropped : Nat} {rest : List UInt8}
    {expected : Except Cause Number} (ends : EndsNumeral rest)
    (outcome : Agrees (endWhole negative digits dropped rest) expected rest) :
    Agrees (afterWhole negative digits dropped rest) expected rest := by
  cases rest with
  | nil => exact outcome
  | cons b more =>
    obtain ⟨-, notPoint, notExponent⟩ := ends b more rfl
    rw [afterWhole, if_neg notPoint, if_neg (by rw [notExponent]; decide)]
    exact outcome

theorem takes_afterWhole_of_ends {negative : Bool} {digits : Nat} {number : Number}
    (fits : Number.ofDigits? negative digits = some number) {rest : List UInt8}
    (ends : EndsNumeral rest) : Takes (afterWhole negative digits 0 rest) number rest := by
  have whole : Takes (endWhole negative digits 0 rest) number rest :=
    ⟨Nat.lt_succ_self _, by simp [endWhole, fits]⟩
  exact (agrees_afterWhole_of_ends ends whole.agrees).takes

theorem lt_digitLimit_of_ofDigits? {negative : Bool} {n : Nat} {number : Number}
    (fits : Number.ofDigits? negative n = some number) : n < digitLimit := by
  simp only [Number.ofDigits?] at fits
  simp only [digitLimit]
  split at fits <;> split at fits
  · omega
  · cases fits
  · assumption
  · cases fits

/-- The digits of a number that 64 bits hold are read as this number. -/
theorem takes_numeral_toDigits {negative : Bool} {n : Nat} {number : Number}
    (fits : Number.ofDigits? negative n = some number) {rest : List UInt8}
    (ends : EndsNumeral rest) :
    Takes (numeral negative (digitBytes (Nat.toDigits 10 n) ++ rest)) number rest := by
  have value := Nat.ofDigitChars_ten_toDigits (n := n)
  apply takes_numeral_of_afterWhole (wholePart_toDigits n) _ ends.startsWithDigit
  · rw [value]
    exact takes_afterWhole_of_ends fits ends
  · rw [value]
    exact lt_digitLimit_of_ofDigits? fits

end NaturalKey.Json
