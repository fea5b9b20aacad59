import NaturalKey.Proofs.Json.Grammar

/-!
What a number comes to is settled by its text. Digits are taken as long as they fit; those that do
not are passed over, so what follows the last digit is the same either way.
-/

set_option autoImplicit false

namespace NaturalKey.Json

variable {negative : Bool}

theorem dropDigits_append {digits more : List UInt8} (allDigits : ∀ b ∈ digits, isDigit b = true)
    (ends : startsWithDigit more = false) : dropDigits (digits ++ more) = more := by
  rw [dropDigits, List.dropWhile_append_of_pos allDigits]
  exact dropDigits_of_not_startsWithDigit ends

theorem takeDigits_append {limit : Nat} {digits more : List UInt8}
    (ends : startsWithDigit more = false) (value count : Nat) :
    takeDigits limit ⟨value, count, digits ++ more⟩ =
      let taken := takeDigits limit ⟨value, count, digits⟩
      ⟨taken.value, taken.count, taken.rest ++ more⟩ := by
  simp only [takeDigits]
  induction digits generalizing value count with
  | nil =>
    cases more with
    | nil => rfl
    | cons b rest =>
      have notDigit : isDigit b = false := ends
      simp [takeDigits.go, notDigit]
  | cons b digits ih =>
    simp only [List.cons_append, takeDigits.go]
    split
    · exact ih _ _
    · rfl

theorem isDigit_of_mem_takeDigits {limit : Nat} {digits : List UInt8}
    (allDigits : ∀ b ∈ digits, isDigit b = true) (value count : Nat) :
    ∀ b ∈ (takeDigits limit ⟨value, count, digits⟩).rest, isDigit b = true := by
  simp only [takeDigits]
  induction digits generalizing value count with
  | nil => exact allDigits
  | cons b digits ih =>
    simp only [takeDigits.go]
    split
    · exact ih (fun c member => allDigits c (List.mem_cons_of_mem _ member)) _ _
    · exact allDigits

/-- An exponent that is too large makes the number too large, or zero. -/
theorem agrees_exponentDigits_of_excess {digits : Nat} {exponent : Int} {downward : Bool}
    {b : UInt8} {rest : List UInt8} {taken : Digits} (digit : isDigit b = true)
    (take : takeDigits exponentLimit ⟨digitValue b, 1, rest⟩ = taken)
    (excess : startsWithDigit taken.rest = true) :
    Agrees (exponentDigits negative digits exponent downward (b :: rest))
      (if digits ≠ 0 ∧ ¬downward then .error .numberOutOfRange else .ok (Binary64.zero negative))
      (dropDigits taken.rest) := by
  subst take
  rw [exponentDigits, if_pos digit]
  simp only [excess, if_true]
  split
  · exact ⟨_, rfl, rfl⟩
  · exact ⟨_, rfl⟩

/-! ### Outcomes -/

variable (negative)

theorem exists_agrees_endDouble (digits : Nat) (exponent : Int) :
    ∃ expected, ∀ rest, Agrees (endDouble negative digits exponent rest) expected rest := by
  cases found : Binary64.ofDecimal? negative digits exponent with
  | some x => exact ⟨.ok x, takes_endDouble found⟩
  | none =>
    refine ⟨.error .numberOutOfRange, fun rest => ?_⟩
    rw [endDouble, found, endInRange]
    exact ⟨_, rfl, rfl⟩

theorem exists_agrees_exponentDigits (digits : Nat) (exponent : Int) (downward : Bool)
    {bytes : List UInt8} (h : DigitsText bytes) :
    ∃ expected, ∀ rest, startsWithDigit rest = false →
      Agrees (exponentDigits negative digits exponent downward (bytes ++ rest)) expected rest := by
  obtain ⟨nonempty, allDigits⟩ := h
  cases bytes with
  | nil => contradiction
  | cons b more =>
    have digit : isDigit b = true := allDigits b List.mem_cons_self
    have others : ∀ c ∈ more, isDigit c = true :=
      fun c member => allDigits c (List.mem_cons_of_mem _ member)
    let power := takeDigits exponentLimit ⟨digitValue b, 1, more⟩
    have left : ∀ c ∈ power.rest, isDigit c = true := isDigit_of_mem_takeDigits others _ _
    have take (rest : List UInt8) (ends : startsWithDigit rest = false) :
        takeDigits exponentLimit ⟨digitValue b, 1, more ++ rest⟩ =
          ⟨power.value, power.count, power.rest ++ rest⟩ :=
      takeDigits_append ends _ _
    cases excess : power.rest with
    | nil =>
      obtain ⟨expected, read⟩ := exists_agrees_endDouble negative digits
        (if downward then exponent - power.value else exponent + power.value)
      refine ⟨expected, fun rest ends => ?_⟩
      have all := take rest ends
      rw [excess, List.nil_append] at all
      exact agrees_exponentDigits digit all ends (read rest)
    | cons c further =>
      have first : isDigit c = true := left c (by simp [excess])
      refine ⟨if digits ≠ 0 ∧ ¬downward then .error .numberOutOfRange
        else .ok (Binary64.zero negative), fun rest ends => ?_⟩
      have further : startsWithDigit (power.rest ++ rest) = true := by
        rw [excess]
        exact first
      have read : Agrees (exponentDigits negative digits exponent downward (b :: (more ++ rest)))
          _ _ := agrees_exponentDigits_of_excess digit (take rest ends) further
      rw [dropDigits_append left ends] at read
      exact read

theorem exists_agrees_exponentPart (digits : Nat) (exponent : Int) {downward : Bool}
    {sign bytes : List UInt8} (signed : ExponentSign downward sign) (h : DigitsText bytes) :
    ∃ expected, ∀ rest, startsWithDigit rest = false →
      Agrees (exponentPart negative digits exponent (sign ++ (bytes ++ rest))) expected rest := by
  obtain ⟨expected, read⟩ :=
    exists_agrees_exponentDigits negative digits exponent downward h
  refine ⟨expected, fun rest ends => ?_⟩
  have outcome := read rest ends
  cases bytes with
  | nil => exact absurd rfl h.nonempty
  | cons b more => exact agrees_exponentPart signed (h.allDigits b List.mem_cons_self) outcome

theorem ExponentText.startsWithDigit_append {bytes : List UInt8} (h : ExponentText bytes)
    {rest : List UInt8} (ends : EndsNumeral rest) : startsWithDigit (bytes ++ rest) = false := by
  cases h with
  | none => exact ends.startsWithDigit
  | some letter _ _ => exact (isDigit_eq_false_of_isExponentLetter letter).1

theorem exists_agrees_exponentIfAny (digits : Nat) (exponent : Int) {bytes : List UInt8}
    (h : ExponentText bytes) :
    ∃ expected, ∀ rest, EndsNumeral rest →
      Agrees (exponentIfAny negative digits exponent (bytes ++ rest)) expected rest := by
  cases h with
  | none =>
    obtain ⟨expected, read⟩ := exists_agrees_endDouble negative digits exponent
    exact ⟨expected, fun rest ends => agrees_exponentIfAny_of_ends ends (read rest)⟩
  | @some letter _ sign bytes isLetter signed some =>
    obtain ⟨expected, read⟩ := exists_agrees_exponentPart negative digits exponent signed some
    refine ⟨expected, fun rest ends => ?_⟩
    rw [List.cons_append, List.append_assoc]
    exact agrees_exponentIfAny isLetter (read rest ends.startsWithDigit)

theorem count_takeDigits {limit : Nat} (bytes : List UInt8) (value count : Nat) :
    (takeDigits limit ⟨value, count, bytes⟩).count +
      (takeDigits limit ⟨value, count, bytes⟩).rest.length = count + bytes.length := by
  simp only [takeDigits]
  induction bytes generalizing value count with
  | nil => rfl
  | cons b bytes ih =>
    simp only [takeDigits.go]
    split
    · rw [ih, List.length_cons]
      omega
    · rfl

theorem exists_agrees_fractionPart (digits : Nat) (exponent : Int) {bytes tail : List UInt8}
    (h : DigitsText bytes) (exponentText : ExponentText tail) :
    ∃ expected, ∀ rest, EndsNumeral rest →
      Agrees (fractionPart negative digits exponent (bytes ++ (tail ++ rest))) expected rest := by
  obtain ⟨nonempty, allDigits⟩ := h
  let fraction := takeDigits digitLimit ⟨digits, 0, bytes⟩
  have left : ∀ c ∈ fraction.rest, isDigit c = true := isDigit_of_mem_takeDigits allDigits _ _
  have counted : fraction.count + fraction.rest.length = bytes.length := by
    rw [count_takeDigits, Nat.zero_add]
  obtain ⟨expected, read⟩ := exists_agrees_exponentIfAny negative fraction.value
    (exponent - fraction.count) exponentText
  refine ⟨expected, fun rest ends => ?_⟩
  have noDigit := exponentText.startsWithDigit_append ends
  apply agrees_fractionPart (takeDigits_append noDigit digits 0)
  · rintro ⟨none, noMore⟩
    apply noMore
    cases excess : fraction.rest with
    | nil =>
      rw [excess] at counted
      have count : fraction.count = 0 := none
      rw [count] at counted
      exact absurd (List.eq_nil_of_length_eq_zero counted.symm) nonempty
    | cons c further =>
      have first : startsWithDigit (fraction.rest ++ (tail ++ rest)) = true := by
        rw [excess]
        exact left c (by simp [excess])
      exact first
  · dsimp only
    rw [dropDigits_append left noDigit]
    exact read rest ends

/-! ### Numbers -/

theorem exists_agrees_endWhole (digits dropped : Nat) :
    ∃ expected, ∀ rest, Agrees (endWhole negative digits dropped rest) expected rest := by
  cases found : if dropped = 0 then Number.ofDigits? negative digits else none with
  | some integer =>
    refine ⟨.ok integer, fun rest => ⟨length_lt_succ rest, ?_⟩⟩
    rw [endWhole, found]
  | none =>
    obtain ⟨expected, read⟩ := exists_agrees_endDouble negative digits dropped
    refine ⟨expected.map .double, fun rest => ?_⟩
    rw [endWhole, found]
    exact (read rest).map _

theorem exists_agrees_afterWhole (digits dropped : Nat) {fraction tail : List UInt8}
    (fractionText : FractionText fraction) (exponentText : ExponentText tail) :
    ∃ expected, ∀ rest, EndsNumeral rest →
      Agrees (afterWhole negative digits dropped (fraction ++ (tail ++ rest))) expected rest := by
  cases fractionText with
  | none =>
    cases exponentText with
    | none =>
      obtain ⟨expected, read⟩ := exists_agrees_endWhole negative digits dropped
      exact ⟨expected, fun rest ends => agrees_afterWhole_of_ends ends (read rest)⟩
    | @some letter _ sign bytes isLetter signed some =>
      obtain ⟨expected, read⟩ :=
        exists_agrees_exponentPart negative digits dropped signed some
      refine ⟨expected.map .double, fun rest ends => ?_⟩
      rw [List.nil_append, List.cons_append, List.append_assoc]
      exact agrees_afterWhole_exponent isLetter (read rest ends.startsWithDigit)
  | @some bytes some =>
    obtain ⟨expected, read⟩ := exists_agrees_fractionPart negative digits dropped some exponentText
    refine ⟨expected.map .double, fun rest ends => ?_⟩
    rw [List.cons_append]
    exact agrees_afterWhole_fraction (read rest ends)

theorem FractionText.startsWithDigit_append {bytes tail : List UInt8} (h : FractionText bytes)
    (exponentText : ExponentText tail) {rest : List UInt8} (ends : EndsNumeral rest) :
    startsWithDigit (bytes ++ (tail ++ rest)) = false := by
  cases h with
  | none => exact exponentText.startsWithDigit_append ends
  | some _ => rfl

/-- From after its sign a number comes to the same whatever follows it. -/
theorem exists_agrees_numeral {whole fraction tail : List UInt8} (wholeText : WholeText whole)
    (fractionText : FractionText fraction) (exponentText : ExponentText tail) :
    ∃ expected, ∀ rest, EndsNumeral rest →
      Agrees (numeral negative (whole ++ (fraction ++ (tail ++ rest)))) expected rest := by
  cases wholeText with
  | zero =>
    obtain ⟨expected, read⟩ :=
      exists_agrees_afterWhole negative 0 0 fractionText exponentText
    refine ⟨expected, fun rest ends => ?_⟩
    have noDigit := fractionText.startsWithDigit_append exponentText ends
    rw [List.singleton_append, numeral, if_pos rfl, if_neg (by rw [noDigit]; decide)]
    exact read rest ends
  | @digits first more digit notZero others =>
    let taken := takeDigits digitLimit ⟨digitValue first, 1, more⟩
    have left : ∀ c ∈ taken.rest, isDigit c = true := isDigit_of_mem_takeDigits others _ _
    obtain ⟨expected, read⟩ := exists_agrees_afterWhole negative taken.value
      taken.rest.length fractionText exponentText
    refine ⟨expected, fun rest ends => ?_⟩
    have noDigit := fractionText.startsWithDigit_append exponentText ends
    rw [List.cons_append]
    apply agrees_numeral notZero digit (takeDigits_append noDigit (digitValue first) 1)
    have dropped : (taken.rest ++ (fraction ++ (tail ++ rest))).length -
        (fraction ++ (tail ++ rest)).length = taken.rest.length := by
      rw [List.length_append, Nat.add_sub_cancel]
    dsimp only
    rw [dropDigits_append left noDigit, dropped]
    exact read rest ends

end NaturalKey.Json
