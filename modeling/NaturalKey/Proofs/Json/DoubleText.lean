import NaturalKey.Proofs.Binary64.Shortest
import NaturalKey.Proofs.Json.Text

/-!
The texts of doubles can be read: each has few enough digits to be collected and stands for a number
in range. What is read need not be the double that was written, since its digits and its power of
ten are rounded one after the other.
-/

set_option autoImplicit false

namespace NaturalKey

open Json

/-! ### What is written -/

namespace Decimal

def digitChars (d : Decimal) : List Char :=
  Nat.toDigits 10 d.digits

def leading (d : Decimal) : Int :=
  d.exponent + d.digitChars.length - 1

/-- The number is whole, and its text has no exponent. -/
def Whole (d : Decimal) : Prop :=
  0 ≤ d.exponent ∧ d.leading < positionalExponents.2

instance (d : Decimal) : Decidable d.Whole := inferInstanceAs (Decidable (_ ∧ _))

/-- The decimal that the text of a double with these digits stands for: a zero is written after the
point of a whole number. -/
def written (d : Decimal) : Decimal :=
  if d.Whole then ⟨d.digits * 10 ^ (d.exponent.toNat + 1), -1⟩ else d

theorem written_of_whole {d : Decimal} (h : d.Whole) :
    d.written = ⟨d.digits * 10 ^ (d.exponent.toNat + 1), -1⟩ :=
  if_pos h

theorem written_of_not_whole {d : Decimal} (h : ¬d.Whole) : d.written = d :=
  if_neg h

theorem whole_of_zero {d : Decimal} (digits : d.digits = 0) (exponent : d.exponent = 0) :
    d.Whole := by
  rw [Whole, leading, digitChars, digits, exponent]
  decide

theorem length_digitChars_pos (d : Decimal) : 0 < d.digitChars.length :=
  Nat.length_toDigits_pos

theorem Whole.le_leading {d : Decimal} (h : d.Whole) : positionalExponents.1 ≤ d.leading := by
  have positive := d.length_digitChars_pos
  have nonneg := h.1
  simp only [positionalExponents, leading]
  omega

theorem digits_written_lt {d : Decimal} (le : d.digits ≤ 10 ^ 17) :
    d.written.digits < digitLimit := by
  have limit : 10 ^ 17 < digitLimit := by decide
  by_cases whole : d.Whole
  · have below : d.digits < 10 ^ d.digitChars.length := lt_ten_pow_digitCount d.digits
    have few : d.digitChars.length + (d.exponent.toNat + 1) ≤ 17 := by
      obtain ⟨nonneg, small⟩ := whole
      simp only [leading, positionalExponents] at small
      omega
    rw [written_of_whole whole]
    calc d.digits * 10 ^ (d.exponent.toNat + 1)
        ≤ 10 ^ d.digitChars.length * 10 ^ (d.exponent.toNat + 1) :=
          Nat.mul_le_mul_right _ (Nat.le_of_lt below)
      _ = 10 ^ (d.digitChars.length + (d.exponent.toNat + 1)) := (Nat.pow_add ..).symm
      _ ≤ 10 ^ 17 := Nat.pow_le_pow_right (by decide) few
      _ < digitLimit := limit
  · rw [written_of_not_whole whole]
    exact Nat.lt_of_le_of_lt le limit

end Decimal

namespace Binary64

variable (x : Binary64)

theorem exists_ofDecimal?_written :
    ∃ y, ofDecimal? x.negative x.shortest.written.digits x.shortest.written.exponent = some y := by
  have short := x.short_shortest
  have below := Decimal.digits_written_lt short.le
  by_cases whole : x.shortest.Whole
  · rw [Decimal.written_of_whole whole] at below ⊢
    exact exists_ofDecimal?_of_neg _ below (by simp)
  · rw [Decimal.written_of_not_whole whole] at below ⊢
    rcases Int.lt_or_le x.shortest.exponent 0 with down | up
    · exact exists_ofDecimal?_of_neg _ below down
    · obtain ⟨exponent, same⟩ := Int.eq_ofNat_of_zero_le up
      have nonzero : x.shortest.digits ≠ 0 := fun zero =>
        whole (Decimal.whole_of_zero zero (short.zero zero))
      rw [same]
      exact x.exists_ofDecimal?_shortest nonzero same

theorem natAbs_leading_shortest_lt : x.shortest.leading.natAbs < exponentLimit := by
  have short := x.short_shortest
  have bits : unitBits + 51 < exponentLimit := by decide
  have few : x.shortest.digitChars.length ≤ 18 := by
    apply (Nat.length_toDigits_le_iff (by decide) (by decide)).mpr
    have := short.le
    omega
  have exponent := short.exponent
  have positive := x.shortest.length_digitChars_pos
  rw [Decimal.leading]
  omega

def reread : Binary64 :=
  (ofDecimal? x.negative x.shortest.written.digits x.shortest.written.exponent).getD x

theorem ofDecimal?_written :
    ofDecimal? x.negative x.shortest.written.digits x.shortest.written.exponent =
      some x.reread := by
  obtain ⟨y, read⟩ := x.exists_ofDecimal?_written
  rw [reread, read, Option.getD_some]

end Binary64

/-! ### How it is written -/

namespace Json

/-- The text has a point between digits that together come to the decimal. -/
structure Pointed (d : Decimal) (text whole fraction : List Char) : Prop where
  text : text = whole ++ '.' :: fraction
  wholePart : WholePart whole
  nonempty : fraction ≠ []
  allDigits : ∀ c ∈ fraction, c.isDigit = true
  digits : Nat.ofDigitChars 10 (whole ++ fraction) 0 = d.digits
  exponent : -(fraction.length : Int) = d.exponent

theorem isDigit_zeros (count : Nat) : ∀ c ∈ List.replicate count '0', c.isDigit = true := by
  intro c member
  rw [List.eq_of_mem_replicate member]
  decide

theorem isDigit_digitChars (d : Decimal) : ∀ c ∈ d.digitChars, c.isDigit = true :=
  (wholePart_toDigits d.digits).allDigits

theorem ofDigitChars_digitChars (d : Decimal) : Nat.ofDigitChars 10 d.digitChars 0 = d.digits :=
  Nat.ofDigitChars_ten_toDigits

theorem head?_digitChars_ne {d : Decimal} (nonzero : d.digits ≠ 0) :
    d.digitChars.head? ≠ some '0' := by
  cases digits : d.digitChars with
  | nil => simp
  | cons first others =>
    rw [List.head?_cons]
    exact fun same => head_toDigits_ne (Nat.pos_of_ne_zero nonzero) digits (Option.some.inj same)

theorem pointed_whole {d : Decimal} (zero : d.digits = 0 → d.exponent = 0) (h : d.Whole) :
    Pointed d.written (positionalText d.digitChars d.exponent)
      (d.digitChars ++ List.replicate d.exponent.toNat '0') ['0'] where
  text := by
    rw [positionalText, if_pos h.1]
  wholePart :=
    { nonempty := by simp [List.ne_nil_of_length_pos d.length_digitChars_pos]
      allDigits c member := by
        rcases List.mem_append.mp member with member | member
        · exact isDigit_digitChars d c member
        · exact isDigit_zeros _ c member
      noLeadingZero more equal := by
        by_cases none : d.digits = 0
        · rw [zero none, Decimal.digitChars, none, Nat.toDigits_zero] at equal
          exact (List.cons.inj equal).2.symm
        · have first := head?_digitChars_ne none
          rw [← List.head?_append_of_ne_nil _ (List.ne_nil_of_length_pos d.length_digitChars_pos),
            equal] at first
          exact absurd rfl first }
  nonempty := by simp
  allDigits := isDigit_zeros 1
  digits := by
    rw [Decimal.written_of_whole h, Nat.ofDigitChars_append, Nat.ofDigitChars_append,
      ofDigitChars_digitChars, Nat.ofDigitChars_replicate_zero, Nat.ofDigitChars_cons,
      Nat.ofDigitChars_nil, Nat.pow_succ]
    simp only [Nat.sub_self, Nat.add_zero]
    ring
  exponent := by
    rw [Decimal.written_of_whole h]
    rfl

theorem pointed_among {d : Decimal} (nonzero : d.digits ≠ 0) (down : d.exponent < 0)
    (among : 0 < d.digitChars.length + d.exponent) :
    Pointed d (positionalText d.digitChars d.exponent)
      (d.digitChars.take (d.digitChars.length + d.exponent).toNat)
      (d.digitChars.drop (d.digitChars.length + d.exponent).toNat) where
  text := by
    rw [positionalText, if_neg (Int.not_le.mpr down)]
    simp only [if_pos among]
  wholePart :=
    { nonempty := by
        apply List.ne_nil_of_length_pos
        rw [List.length_take]
        omega
      allDigits c member := isDigit_digitChars d c (List.mem_of_mem_take member)
      noLeadingZero more equal := by
        have first := head?_digitChars_ne nonzero
        have some : (d.digitChars.length + d.exponent).toNat ≠ 0 := by omega
        have same := List.head?_take (l := d.digitChars)
          (i := (d.digitChars.length + d.exponent).toNat)
        rw [if_neg some, equal] at same
        exact absurd same.symm first }
  nonempty := by
    apply List.ne_nil_of_length_pos
    rw [List.length_drop]
    omega
  allDigits c member := isDigit_digitChars d c (List.mem_of_mem_drop member)
  digits := by rw [List.take_append_drop, ofDigitChars_digitChars]
  exponent := by
    rw [List.length_drop]
    omega

theorem pointed_before {d : Decimal} (down : d.exponent < 0)
    (before : d.digitChars.length + d.exponent ≤ 0) :
    Pointed d (positionalText d.digitChars d.exponent) ['0']
      (List.replicate (-(d.digitChars.length + d.exponent)).toNat '0' ++ d.digitChars) where
  text := by
    rw [positionalText, if_neg (Int.not_le.mpr down)]
    simp only [if_neg (Int.not_lt.mpr before)]
    rfl
  wholePart := wholePart_toDigits 0
  nonempty := by simp [List.ne_nil_of_length_pos d.length_digitChars_pos]
  allDigits c member := by
    rcases List.mem_append.mp member with member | member
    · exact isDigit_zeros _ c member
    · exact isDigit_digitChars d c member
  digits := by
    rw [List.singleton_append, Nat.ofDigitChars_cons, Nat.ofDigitChars_append,
      Nat.ofDigitChars_replicate_zero, ← ofDigitChars_digitChars d]
    simp
  exponent := by
    rw [List.length_append, List.length_replicate]
    omega

theorem exists_pointed {d : Decimal} (zero : d.digits = 0 → d.exponent = 0)
    (small : d.leading < positionalExponents.2) :
    ∃ whole fraction,
      Pointed d.written (positionalText d.digitChars d.exponent) whole fraction := by
  by_cases whole : d.Whole
  · exact ⟨_, _, pointed_whole zero whole⟩
  · have down : d.exponent < 0 := Int.not_le.mp fun up => whole ⟨up, small⟩
    rw [Decimal.written_of_not_whole whole]
    rcases Int.lt_or_le 0 (d.digitChars.length + d.exponent) with among | before
    · have nonzero : d.digits ≠ 0 := fun none => by
        rw [zero none] at down
        contradiction
      exact ⟨_, _, pointed_among nonzero down among⟩
    · exact ⟨_, _, pointed_before down before⟩

/-! ### Reading it -/

theorem spellsNumber_signed {negative : Bool} {chars whole fraction : List Char} {exponent : Int}
    {tail : List UInt8} {x : Binary64}
    (bytes : chars.flatMap Utf8.encodeChar = digitBytes whole ++ (fractionBytes fraction ++ tail))
    (wholePart : WholePart whole) (allDigits : ∀ c ∈ fraction, c.isDigit = true)
    (spelled : SpellsExponent exponent tail) (nonempty : fraction ≠ [] ∨ tail ≠ [])
    (below : Nat.ofDigitChars 10 (whole ++ fraction) 0 < digitLimit)
    (value : Binary64.ofDecimal? negative (Nat.ofDigitChars 10 (whole ++ fraction) 0)
      (exponent - fraction.length) = some x) :
    SpellsNumber (.double x)
      (Utf8.encode (String.ofList (if negative then '-' :: chars else chars))) := by
  have signed : Utf8.encode (String.ofList (if negative then '-' :: chars else chars)) =
      signBytes negative ++ (digitBytes whole ++ (fractionBytes fraction ++ tail)) := by
    rw [Utf8.encode_ofList, ← bytes]
    cases negative <;> rfl
  rw [signed]
  exact .double wholePart allDigits spelled nonempty below value

theorem spellsNumber_pointed {negative : Bool} {d : Decimal} {text whole fraction : List Char}
    {x : Binary64} (h : Pointed d text whole fraction) (below : d.digits < digitLimit)
    (value : Binary64.ofDecimal? negative d.digits d.exponent = some x) :
    SpellsNumber (.double x)
      (Utf8.encode (String.ofList (if negative then '-' :: text else text))) := by
  have bytes : text.flatMap Utf8.encodeChar =
      digitBytes whole ++ (fractionBytes fraction ++ []) := by
    rw [h.text, List.flatMap_append, List.flatMap_cons, flatMap_encodeChar_digits h.allDigits,
      flatMap_encodeChar_digits h.wholePart.allDigits, fractionBytes, if_neg h.nonempty,
      List.append_nil]
    rfl
  apply spellsNumber_signed bytes h.wholePart h.allDigits .none (.inl h.nonempty)
  · rwa [h.digits]
  · rw [h.digits, Int.zero_sub, h.exponent]
    exact value

def exponentBytes (leading : Int) : List UInt8 :=
  0x65 :: ((if 0 ≤ leading then [0x2B] else [0x2D]) ++
    digitBytes (Nat.toDigits 10 leading.natAbs))

theorem spellsExponent_exponentBytes {leading : Int} (below : leading.natAbs < exponentLimit) :
    SpellsExponent leading (exponentBytes leading) := by
  have value := Nat.ofDigitChars_ten_toDigits (n := leading.natAbs)
  have allDigits := (wholePart_toDigits leading.natAbs).allDigits
  rw [exponentBytes]
  cases digits : Nat.toDigits 10 leading.natAbs with
  | nil => exact absurd digits Nat.toDigits_ne_nil
  | cons first more =>
    rw [digits] at value allDigits
    have letter : isExponentLetter 0x65 = true := rfl
    have spelled {downward : Bool} {sign : List UInt8} (signed : ExponentSign downward sign) :=
      SpellsExponent.some letter signed allDigits (by rwa [value])
    rw [value] at spelled
    by_cases up : 0 ≤ leading
    · have same : ((leading.natAbs : Nat) : Int) = leading := by omega
      rw [if_pos up]
      have plus := spelled .plus
      simp only [Bool.false_eq_true, if_false, same] at plus
      exact plus
    · have same : -((leading.natAbs : Nat) : Int) = leading := by omega
      rw [if_neg up]
      have minus := spelled .minus
      simp only [if_true, same] at minus
      exact minus

theorem flatMap_exponentialText {first : Char} {others : List Char}
    (allDigits : ∀ c ∈ first :: others, c.isDigit = true) (leading : Int) :
    (exponentialText (first :: others) leading).flatMap Utf8.encodeChar =
      digitBytes [first] ++ (fractionBytes others ++ exponentBytes leading) := by
  have exponent : ('e' :: (if 0 ≤ leading then '+' else '-') ::
      Nat.toDigits 10 leading.natAbs).flatMap Utf8.encodeChar = exponentBytes leading := by
    rw [List.flatMap_cons, List.flatMap_cons,
      flatMap_encodeChar_digits (wholePart_toDigits leading.natAbs).allDigits, exponentBytes]
    split <;> rfl
  have whole : [first].flatMap Utf8.encodeChar = digitBytes [first] := flatMap_encodeChar_digits
    fun c member => allDigits c (List.mem_cons.mpr (.inl (List.mem_singleton.mp member)))
  cases others with
  | nil =>
    have parts : exponentialText [first] leading = [first] ++
      'e' :: (if 0 ≤ leading then '+' else '-') :: Nat.toDigits 10 leading.natAbs := rfl
    rw [parts, List.flatMap_append, exponent, whole]
    rfl
  | cons second more =>
    have fraction := flatMap_encodeChar_digits
      fun c member => allDigits c (List.mem_cons_of_mem _ member)
    have parts : first :: '.' :: second :: more = [first] ++ '.' :: second :: more := rfl
    rw [exponentialText, List.flatMap_append, exponent, parts, List.flatMap_append, whole,
      List.flatMap_cons, fraction, List.append_assoc]
    rfl

/-- A number written with an exponent has one digit before the point. -/
theorem spellsNumber_exponentialText {negative : Bool} {d : Decimal} {x : Binary64}
    (near : d.leading.natAbs < exponentLimit) (below : d.digits < digitLimit)
    (value : Binary64.ofDecimal? negative d.digits d.exponent = some x) :
    SpellsNumber (.double x) (Utf8.encode (String.ofList
      (if negative then '-' :: exponentialText d.digitChars d.leading
        else exponentialText d.digitChars d.leading))) := by
  have allDigits := isDigit_digitChars d
  have digits := ofDigitChars_digitChars d
  have exponent : d.leading - (d.digitChars.length - 1) = d.exponent := by
    rw [Decimal.leading]
    omega
  cases chars : d.digitChars with
  | nil => exact absurd chars (List.ne_nil_of_length_pos d.length_digitChars_pos)
  | cons first others =>
    rw [chars] at allDigits digits exponent
    have places : d.leading - others.length = d.exponent := by
      rw [List.length_cons] at exponent
      omega
    have wholePart : WholePart [first] :=
      { nonempty := by simp
        allDigits c member := allDigits c (List.mem_cons.mpr (.inl (List.mem_singleton.mp member)))
        noLeadingZero more equal := (List.cons.inj equal).2.symm }
    apply spellsNumber_signed (flatMap_exponentialText allDigits d.leading) wholePart
      (fun c member => allDigits c (List.mem_cons_of_mem _ member))
      (spellsExponent_exponentBytes near) (.inr (by simp [exponentBytes]))
    · rw [List.singleton_append, digits]
      exact below
    · rw [List.singleton_append, digits, places]
      exact value

def magnitudeText (d : Decimal) : List Char :=
  if positionalExponents.1 ≤ d.leading ∧ d.leading < positionalExponents.2 then
    positionalText d.digitChars d.exponent
  else
    exponentialText d.digitChars d.leading

theorem doubleText_eq (x : Binary64) :
    doubleText x = String.ofList (if x.negative then '-' :: magnitudeText x.shortest
      else magnitudeText x.shortest) :=
  rfl

theorem spellsNumber_doubleText (x : Binary64) :
    SpellsNumber (.double x.reread) (Utf8.encode (doubleText x)) := by
  have short := x.short_shortest
  have below := Decimal.digits_written_lt short.le
  have value := x.ofDecimal?_written
  rw [doubleText_eq, magnitudeText]
  by_cases positional : positionalExponents.1 ≤ x.shortest.leading ∧
      x.shortest.leading < positionalExponents.2
  · obtain ⟨whole, fraction, pointed⟩ := exists_pointed short.zero positional.2
    rw [if_pos positional]
    exact spellsNumber_pointed pointed below value
  · have notWhole : ¬x.shortest.Whole := fun whole => positional ⟨whole.le_leading, whole.2⟩
    rw [Decimal.written_of_not_whole notWhole] at below value
    rw [if_neg positional]
    exact spellsNumber_exponentialText x.natAbs_leading_shortest_lt below value

/-! ### Numbers -/

/-- The number that is read for the text of a number. -/
def Number.reread : Number → Number
  | .integer value range => .integer value range
  | .double value => .double value.reread

theorem spellsNumber_text (number : Number) :
    SpellsNumber number.reread (Utf8.encode number.text) := by
  cases number with
  | integer value range => exact spellsNumber_integerText value range
  | double value => exact spellsNumber_doubleText value

end Json

end NaturalKey
