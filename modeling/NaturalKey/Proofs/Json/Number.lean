import NaturalKey.Proofs.Json.Numeral

/-!
Reading the numbers that are written. An integer is its digits; every other number has a fraction or
an exponent, and its digits before and after the point are taken together.
-/

set_option autoImplicit false

namespace NaturalKey.Json

def signBytes (negative : Bool) : List UInt8 :=
  if negative then [0x2D] else []

inductive ExponentSign : Bool → List UInt8 → Prop
  | minus : ExponentSign true [0x2D]
  | plus : ExponentSign false [0x2B]
  | none : ExponentSign false []

inductive SpellsExponent : Int → List UInt8 → Prop
  | none : SpellsExponent 0 []
  | some {letter : UInt8} {downward : Bool} {sign : List UInt8} {first : Char} {more : List Char} :
      isExponentLetter letter = true → ExponentSign downward sign →
      (∀ c ∈ first :: more, c.isDigit = true) →
      Nat.ofDigitChars 10 (first :: more) 0 < exponentLimit →
      SpellsExponent
        (if downward then -(Nat.ofDigitChars 10 (first :: more) 0 : Int)
          else Nat.ofDigitChars 10 (first :: more) 0)
        (letter :: (sign ++ digitBytes (first :: more)))

def fractionBytes (fraction : List Char) : List UInt8 :=
  if fraction = [] then [] else 0x2E :: digitBytes fraction

inductive SpellsNumber : Number → List UInt8 → Prop
  | integer {negative : Bool} {n : Nat} {number : Number} :
      Number.ofDigits? negative n = some number →
      SpellsNumber number (signBytes negative ++ digitBytes (Nat.toDigits 10 n))
  | double {negative : Bool} {whole fraction : List Char} {exponent : Int} {tail : List UInt8}
      {x : Binary64} :
      WholePart whole → (∀ c ∈ fraction, c.isDigit = true) → SpellsExponent exponent tail →
      (fraction ≠ [] ∨ tail ≠ []) → Nat.ofDigitChars 10 (whole ++ fraction) 0 < digitLimit →
      Binary64.ofDecimal? negative (Nat.ofDigitChars 10 (whole ++ fraction) 0)
        (exponent - fraction.length) = some x →
      SpellsNumber (.double x)
        (signBytes negative ++ (digitBytes whole ++ (fractionBytes fraction ++ tail)))

/-! ### Piece by piece -/

section Pieces

variable {negative : Bool} {digits : Nat} {exponent : Int} {downward : Bool} {b : UInt8}
  {bytes rest : List UInt8} {taken : Digits} {expected : Except Cause Binary64}

theorem agrees_exponentDigits (digit : isDigit b = true)
    (take : takeDigits exponentLimit ⟨digitValue b, 1, bytes⟩ = taken)
    (fits : startsWithDigit taken.rest = false)
    (outcome : Agrees (endDouble negative digits
        (if downward then exponent - taken.value else exponent + taken.value) taken.rest)
      expected rest) :
    Agrees (exponentDigits negative digits exponent downward (b :: bytes)) expected rest := by
  subst take
  rw [exponentDigits, if_pos digit]
  simp only [fits, Bool.false_eq_true, if_false]
  generalize endDouble negative _ _ _ = ended at outcome ⊢
  cases ended with
  | error stop => exact outcome.of_error
  | ok step => exact outcome.weaken _

theorem agrees_exponentPart {sign : List UInt8} (signed : ExponentSign downward sign)
    (digit : isDigit b = true)
    (outcome : Agrees (exponentDigits negative digits exponent downward (b :: bytes))
      expected rest) :
    Agrees (exponentPart negative digits exponent (sign ++ b :: bytes)) expected rest := by
  cases signed with
  | minus =>
    rw [List.cons_append, List.nil_append, exponentPart, if_pos (.inr rfl)]
    simp only [decide_true]
    generalize exponentDigits negative digits exponent true (b :: bytes) = read at outcome ⊢
    cases read with
    | error stop => exact outcome.of_error
    | ok step => exact outcome.weaken _
  | plus =>
    have notMinus : ¬(0x2B : UInt8) = 0x2D := by decide
    rw [List.cons_append, List.nil_append, exponentPart, if_pos (.inl rfl)]
    simp only [decide_eq_false notMinus]
    generalize exponentDigits negative digits exponent false (b :: bytes) = read at outcome ⊢
    cases read with
    | error stop => exact outcome.of_error
    | ok step => exact outcome.weaken _
  | none =>
    have unsigned : ¬(b = 0x2B ∨ b = 0x2D) := by
      rintro (rfl | rfl) <;> exact absurd digit (by decide)
    rw [List.nil_append, exponentPart, if_neg unsigned]
    exact outcome

theorem agrees_exponentIfAny_of_ends (ends : EndsNumeral rest)
    (outcome : Agrees (endDouble negative digits exponent rest) expected rest) :
    Agrees (exponentIfAny negative digits exponent rest) expected rest := by
  cases rest with
  | nil => exact outcome
  | cons b more =>
    obtain ⟨-, -, notLetter⟩ := ends b more rfl
    rw [exponentIfAny, if_neg (by rw [notLetter]; decide)]
    exact outcome

theorem agrees_exponentIfAny (letter : isExponentLetter b = true)
    (outcome : Agrees (exponentPart negative digits exponent bytes) expected rest) :
    Agrees (exponentIfAny negative digits exponent (b :: bytes)) expected rest := by
  rw [exponentIfAny, if_pos letter]
  generalize exponentPart negative digits exponent bytes = read at outcome ⊢
  cases read with
  | error stop => exact outcome.of_error
  | ok step => exact outcome.weaken _

theorem agrees_fractionPart (take : takeDigits digitLimit ⟨digits, 0, bytes⟩ = taken)
    (some : ¬(taken.count = 0 ∧ ¬startsWithDigit taken.rest = true))
    (outcome : Agrees (exponentIfAny negative taken.value (exponent - taken.count)
      (dropDigits taken.rest)) expected rest) :
    Agrees (fractionPart negative digits exponent bytes) expected rest := by
  subst take
  rw [fractionPart]
  simp only [if_neg some]
  generalize exponentIfAny negative _ _ _ = read at outcome ⊢
  cases read with
  | error stop => exact outcome.of_error
  | ok step => exact outcome.weaken _

theorem isDigit_eq_false_of_isExponentLetter (letter : isExponentLetter b = true) :
    isDigit b = false ∧ b ≠ 0x2E := by
  simp only [isExponentLetter, Bool.or_eq_true, beq_iff_eq] at letter
  rcases letter with rfl | rfl <;> decide

theorem agrees_afterWhole_exponent {dropped : Nat} (letter : isExponentLetter b = true)
    (outcome : Agrees (exponentPart negative digits dropped bytes) expected rest) :
    Agrees (afterWhole negative digits dropped (b :: bytes)) (expected.map .double) rest := by
  have notPoint := (isDigit_eq_false_of_isExponentLetter letter).2
  rw [afterWhole, if_neg notPoint, if_pos letter]
  generalize exponentPart negative digits dropped bytes = read at outcome ⊢
  cases read with
  | error stop => exact outcome.of_error.map Number.double
  | ok step => exact (outcome.map Number.double).weaken _

theorem agrees_afterWhole_fraction {dropped : Nat}
    (outcome : Agrees (fractionPart negative digits dropped bytes) expected rest) :
    Agrees (afterWhole negative digits dropped (0x2E :: bytes)) (expected.map .double) rest := by
  rw [afterWhole, if_pos rfl]
  generalize fractionPart negative digits dropped bytes = read at outcome ⊢
  cases read with
  | error stop => exact outcome.of_error.map Number.double
  | ok step => exact (outcome.map Number.double).weaken _

end Pieces

/-! ### Reading -/

section Reading

variable {negative : Bool} {digits : Nat} {x : Binary64} {rest : List UInt8}

theorem takes_endDouble {exponent : Int}
    (h : Binary64.ofDecimal? negative digits exponent = some x) (rest : List UInt8) :
    Takes (endDouble negative digits exponent rest) x rest := by
  refine ⟨Nat.lt_succ_self _, ?_⟩
  rw [endDouble, h, endInRange]

theorem takes_exponentDigits {exponent : Int} (downward : Bool) {first : Char} {more : List Char}
    (allDigits : ∀ c ∈ first :: more, c.isDigit = true)
    (below : Nat.ofDigitChars 10 (first :: more) 0 < exponentLimit)
    (h : Binary64.ofDecimal? negative digits
      (if downward then exponent - Nat.ofDigitChars 10 (first :: more) 0
        else exponent + Nat.ofDigitChars 10 (first :: more) 0) = some x)
    (ends : startsWithDigit rest = false) :
    Takes (exponentDigits negative digits exponent downward (digitBytes (first :: more) ++ rest)) x
      rest := by
  have digit : first.isDigit = true := allDigits first List.mem_cons_self
  have value : digitValue (.ofNat first.toNat) = 10 * 0 + (first.toNat - '0'.toNat) := by
    rw [digitValue_digitByte digit]
    omega
  rw [Nat.ofDigitChars_cons, ← value] at below h
  have taken := takeDigits_digitBytes (fun c member => allDigits c (List.mem_cons_of_mem _ member))
    ends (digitValue (.ofNat first.toNat)) 1 below
  have finished := (takes_endDouble h rest).agrees
  exact (agrees_exponentDigits (isDigit_digitByte digit) taken ends finished).takes

theorem takes_exponentPart {exponent : Int} {downward : Bool} {sign : List UInt8} {first : Char}
    {more : List Char} (signed : ExponentSign downward sign)
    (allDigits : ∀ c ∈ first :: more, c.isDigit = true)
    (below : Nat.ofDigitChars 10 (first :: more) 0 < exponentLimit)
    (h : Binary64.ofDecimal? negative digits
      (exponent + if downward then -(Nat.ofDigitChars 10 (first :: more) 0 : Int)
        else Nat.ofDigitChars 10 (first :: more) 0) = some x)
    (ends : startsWithDigit rest = false) :
    Takes (exponentPart negative digits exponent
      (sign ++ (digitBytes (first :: more) ++ rest))) x rest := by
  have digit := isDigit_digitByte (allDigits first List.mem_cons_self)
  have value : (if downward then exponent - Nat.ofDigitChars 10 (first :: more) 0
      else exponent + Nat.ofDigitChars 10 (first :: more) 0) =
        exponent + if downward then -(Nat.ofDigitChars 10 (first :: more) 0 : Int)
          else Nat.ofDigitChars 10 (first :: more) 0 := by
    cases downward <;> rfl
  rw [← value] at h
  have read := (takes_exponentDigits downward allDigits below h ends).agrees
  exact (agrees_exponentPart signed digit read).takes

theorem startsWithDigit_tail {exponent : Int} {tail : List UInt8} (h : SpellsExponent exponent tail)
    (ends : EndsNumeral rest) : startsWithDigit (tail ++ rest) = false := by
  cases h with
  | none => exact ends.startsWithDigit
  | some letter _ _ _ => exact (isDigit_eq_false_of_isExponentLetter letter).1

theorem takes_exponentIfAny {start exponent : Int} {tail : List UInt8}
    (spelled : SpellsExponent exponent tail)
    (h : Binary64.ofDecimal? negative digits (start + exponent) = some x)
    (ends : EndsNumeral rest) :
    Takes (exponentIfAny negative digits start (tail ++ rest)) x rest := by
  cases spelled with
  | none =>
    rw [Int.add_zero] at h
    exact (agrees_exponentIfAny_of_ends ends (takes_endDouble h rest).agrees).takes
  | some letter signed allDigits below =>
    have read := takes_exponentPart signed allDigits below h ends.startsWithDigit
    rw [List.cons_append, List.append_assoc]
    exact (agrees_exponentIfAny letter read.agrees).takes

theorem takes_fractionPart {start exponent : Int} {fraction : List Char} {tail : List UInt8}
    (nonempty : fraction ≠ []) (allDigits : ∀ c ∈ fraction, c.isDigit = true)
    (spelled : SpellsExponent exponent tail)
    (below : Nat.ofDigitChars 10 fraction digits < digitLimit)
    (h : Binary64.ofDecimal? negative (Nat.ofDigitChars 10 fraction digits)
      (start - fraction.length + exponent) = some x)
    (ends : EndsNumeral rest) :
    Takes (fractionPart negative digits start (digitBytes fraction ++ (tail ++ rest))) x rest := by
  have noDigit := startsWithDigit_tail spelled ends
  have taken := takeDigits_digitBytes allDigits noDigit digits 0 below
  rw [Nat.zero_add] at taken
  apply Agrees.takes
  apply agrees_fractionPart taken
  · exact fun none => nonempty (List.length_eq_zero_iff.mp none.1)
  · rw [dropDigits_of_not_startsWithDigit noDigit]
    exact (takes_exponentIfAny spelled h ends).agrees

theorem takes_afterWhole {exponent : Int} {fraction : List Char} {tail : List UInt8}
    (allDigits : ∀ c ∈ fraction, c.isDigit = true) (spelled : SpellsExponent exponent tail)
    (nonempty : fraction ≠ [] ∨ tail ≠ [])
    (below : Nat.ofDigitChars 10 fraction digits < digitLimit)
    (h : Binary64.ofDecimal? negative (Nat.ofDigitChars 10 fraction digits)
      (exponent - fraction.length) = some x)
    (ends : EndsNumeral rest) :
    Takes (afterWhole negative digits 0 (fractionBytes fraction ++ (tail ++ rest)))
      (.double x) rest := by
  by_cases whole : fraction = []
  · subst whole
    cases spelled with
    | none => simp at nonempty
    | some letter signed digits' below' =>
      have value (n : Int) : n - (([] : List Char).length : Int) = ((0 : Nat) : Int) + n := by
        simp
      rw [Nat.ofDigitChars_nil, value] at h
      have read := takes_exponentPart signed digits' below' h ends.startsWithDigit
      rw [fractionBytes, if_pos rfl, List.nil_append, List.cons_append, List.append_assoc]
      exact (agrees_afterWhole_exponent letter read.agrees).takes
  · have value : ((0 : Nat) : Int) - fraction.length + exponent = exponent - fraction.length := by
      omega
    rw [← value] at h
    have read := takes_fractionPart whole allDigits spelled below h ends
    rw [fractionBytes, if_neg whole, List.cons_append]
    exact (agrees_afterWhole_fraction read.agrees).takes

end Reading

theorem startsWithDigit_digitBytes {digits : List Char} (nonempty : digits ≠ [])
    (allDigits : ∀ c ∈ digits, c.isDigit = true) (rest : List UInt8) :
    startsWithDigit (digitBytes digits ++ rest) = true := by
  cases digits with
  | nil => contradiction
  | cons c more => exact isDigit_digitByte (allDigits c List.mem_cons_self)

/-- From its first digit on a number is read as it is spelled. -/
theorem SpellsNumber.exists_numeral {number : Number} {bytes : List UInt8}
    (h : SpellsNumber number bytes) :
    ∃ negative numerals, bytes = signBytes negative ++ numerals ∧ startsWithDigit numerals = true ∧
      ∀ {rest : List UInt8}, EndsNumeral rest →
        Takes (numeral negative (numerals ++ rest)) number rest := by
  cases h with
  | @integer negative n _ fits =>
    have whole := wholePart_toDigits n
    have first := startsWithDigit_digitBytes whole.nonempty whole.allDigits []
    rw [List.append_nil] at first
    exact ⟨negative, _, rfl, first, takes_numeral_toDigits fits⟩
  | @double negative wholeDigits fraction exponent tail x whole allDigits spelled nonempty below
      value =>
    rw [Nat.ofDigitChars_append] at below value
    refine ⟨negative, _, rfl, startsWithDigit_digitBytes whole.nonempty whole.allDigits _, ?_⟩
    intro rest ends
    have wholeBelow := Nat.lt_of_le_of_lt (le_ofDigitChars fraction _) below
    rw [List.append_assoc, List.append_assoc]
    apply takes_numeral_of_afterWhole whole wholeBelow _
      (takes_afterWhole allDigits spelled nonempty below value ends)
    by_cases integral : fraction = []
    · rw [fractionBytes, if_pos integral, List.nil_append]
      exact startsWithDigit_tail spelled ends
    · rw [fractionBytes, if_neg integral]
      rfl

end NaturalKey.Json
