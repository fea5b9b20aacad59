import NaturalKey.Proofs.Json.Grammar

/-!
What a string comes to is settled by its letters. An escape may be the first of a pair, so one step
may take two letters; but never more than there are before the closing quote.
-/

set_option autoImplicit false

namespace NaturalKey.Json

variable {letters : List UInt8}

/-- Whatever follows the closing quote, the reader takes some of the letters, always the same, or
fails for the same cause. -/
inductive TakesLetters {α : Type} (reader : Reader α) (letters : List UInt8) : Prop
  | takes (value : α) {more : List UInt8} : LettersText more →
      (∀ rest, Takes (reader (letters ++ 0x22 :: rest)) value (more ++ 0x22 :: rest)) →
      TakesLetters reader letters
  | fails (cause : Cause) :
      (∀ rest, ∃ stop, reader (letters ++ 0x22 :: rest) = .error stop ∧ stop.cause = cause) →
      TakesLetters reader letters

theorem exists_hexNumber? {w x y z : UInt8} (first : IsHexDigit w) (second : IsHexDigit x)
    (third : IsHexDigit y) (fourth : IsHexDigit z) : ∃ n, hexNumber? w x y z = some n := by
  obtain ⟨a, hexA⟩ := Option.isSome_iff_exists.mp first
  obtain ⟨b, hexB⟩ := Option.isSome_iff_exists.mp second
  obtain ⟨c, hexC⟩ := Option.isSome_iff_exists.mp third
  obtain ⟨d, hexD⟩ := Option.isSome_iff_exists.mp fourth
  rw [hexNumber?, hexA, hexB, hexC, hexD]
  exact ⟨_, rfl⟩

theorem LettersText.takesLetters_lowSurrogate (h : LettersText letters) :
    TakesLetters lowSurrogate letters := by
  have fails {b : UInt8} (notBackslash : b ≠ 0x5C) (rest : List UInt8) :
      ∃ stop, lowSurrogate (b :: rest) = .error stop ∧ stop.cause = .unpairedSurrogate := by
    simp only [lowSurrogate, ne_eq, notBackslash, not_false_eq_true, if_true]
    exact ⟨_, rfl, rfl⟩
  cases h with
  | nil => exact .fails .unpairedSurrogate (fails (by decide))
  | @cons letter more single others =>
    cases single with
    | plain _ notBackslash _ => exact .fails .unpairedSurrogate fun rest => fails notBackslash _
    | @escape c known =>
      have notNumber : c ≠ 0x75 := by
        rintro rfl
        simp at known
      refine .fails .unpairedSurrogate fun rest => ?_
      simp only [List.cons_append, List.nil_append, lowSurrogate, ne_eq, not_true, if_false,
        notNumber, not_false_eq_true, if_true]
      exact ⟨_, rfl, rfl⟩
    | @number w x y z first second third fourth =>
      obtain ⟨n, value⟩ := exists_hexNumber? first second third fourth
      cases isLow : isLowSurrogate n with
      | true => exact .takes n others fun rest => takes_lowSurrogate value isLow _
      | false =>
        refine .fails .loneSurrogate fun rest => ?_
        obtain ⟨shorter, taken⟩ := takes_hexNumber value (more ++ 0x22 :: rest)
        simp only [List.cons_append, List.nil_append, lowSurrogate, ne_eq, not_true, if_false,
          taken, isLow, Bool.false_eq_true]
        exact ⟨_, rfl, rfl⟩

theorem TakesLetters.map {α β : Type} {reader : Reader α} {next : Reader β} {bytes : List UInt8}
    (h : TakesLetters reader letters) (f : α → β)
    (takes : ∀ {value rest more}, Takes (reader (letters ++ 0x22 :: rest)) value more →
      Takes (next (bytes ++ 0x22 :: rest)) (f value) more)
    (fails : ∀ {rest stop}, reader (letters ++ 0x22 :: rest) = .error stop →
      next (bytes ++ 0x22 :: rest) = .error stop) : TakesLetters next bytes := by
  cases h with
  | takes value more taken => exact .takes (f value) more fun rest => takes (taken rest)
  | fails cause failed =>
    refine .fails cause fun rest => ?_
    obtain ⟨stop, stopped, same⟩ := failed rest
    exact ⟨stop, fails stopped, same⟩

/-- From after the letter of an escape with a number the character is taken, and its second half if
it needs one. -/
theorem LettersText.takesLetters_unicodeEscape (h : LettersText letters) {w x y z : UInt8}
    (first : IsHexDigit w) (second : IsHexDigit x) (third : IsHexDigit y)
    (fourth : IsHexDigit z) : TakesLetters unicodeEscape (w :: x :: y :: z :: letters) := by
  obtain ⟨n, value⟩ := exists_hexNumber? first second third fourth
  cases isLow : isLowSurrogate n with
  | true =>
    refine .fails .loneSurrogate fun rest => ?_
    obtain ⟨shorter, taken⟩ := takes_hexNumber value (letters ++ 0x22 :: rest)
    simp only [List.cons_append, unicodeEscape, taken, isLow, if_true]
    exact ⟨_, rfl, rfl⟩
  | false =>
    cases isHigh : isHighSurrogate n with
    | true =>
      apply h.takesLetters_lowSurrogate.map fun low => Char.ofNat (combineSurrogates n low)
      · exact takes_unicodeEscape_pair value isHigh
      · intro rest stop failed
        obtain ⟨shorter, taken⟩ := takes_hexNumber value (letters ++ 0x22 :: rest)
        simp only [List.cons_append, unicodeEscape, taken, isLow, isHigh, Bool.false_eq_true,
          if_false, if_true, failed]
    | false =>
      exact .takes (Char.ofNat n) h fun rest => takes_unicodeEscape_number value isHigh isLow _

theorem isSome_simpleEscape? {letter : UInt8}
    (known : letter ∈ [0x22, 0x5C, 0x2F, 0x62, 0x66, 0x6E, 0x72, 0x74]) :
    (simpleEscape? letter).isSome = true := by
  have standsFor : ∀ letter ∈ [0x22, 0x5C, 0x2F, 0x62, 0x66, 0x6E, 0x72, 0x74],
      (simpleEscape? letter).isSome = true := by
    simp [simpleEscape?]
  exact standsFor letter known

theorem LettersText.takesLetters_escaped_letter (h : LettersText letters) {letter : UInt8}
    (known : letter ∈ [0x22, 0x5C, 0x2F, 0x62, 0x66, 0x6E, 0x72, 0x74]) :
    TakesLetters escaped (letter :: letters) := by
  obtain ⟨c, found⟩ := Option.isSome_iff_exists.mp (isSome_simpleEscape? known)
  refine .takes c h fun rest => ?_
  simp only [List.cons_append, escaped, found]
  exact ⟨_, rfl⟩

theorem LettersText.takesLetters_escaped_number (h : LettersText letters) {w x y z : UInt8}
    (first : IsHexDigit w) (second : IsHexDigit x) (third : IsHexDigit y)
    (fourth : IsHexDigit z) : TakesLetters escaped (0x75 :: w :: x :: y :: z :: letters) := by
  have noLetter : simpleEscape? 0x75 = none := by decide
  apply (h.takesLetters_unicodeEscape first second third fourth).map id
  · exact takes_escaped_unicodeEscape
  · intro rest stop failed
    rw [List.cons_append, escaped, noLetter]
    simp only [if_true, failed]

/-! ### Strings -/

/-- The bytes of a string come to the same, whatever those before them came to and whatever follows
the closing quote. -/
def StringBytesSettled (letters : List UInt8) : Prop :=
  ∀ taken, ∃ expected, ∀ {bound : Nat} (rest : List UInt8)
    (le : (letters ++ 0x22 :: rest).length ≤ bound),
    Agrees (stringBytes taken (letters ++ 0x22 :: rest) le) expected rest

theorem StringBytesSettled.plain (h : StringBytesSettled letters) {b : UInt8} (notQuote : b ≠ 0x22)
    (notBackslash : b ≠ 0x5C) (notControl : 0x20 ≤ b.toNat) :
    StringBytesSettled (b :: letters) := by
  intro taken
  obtain ⟨expected, read⟩ := h (b :: taken)
  refine ⟨expected, fun rest le => ?_⟩
  simp only [List.cons_append] at le ⊢
  rw [stringBytes, if_neg notQuote, if_neg notBackslash, if_neg (Nat.not_lt.mpr notControl)]
  exact read rest _

/-- An escape takes at least one letter, so what is left is a shorter string. -/
theorem TakesLetters.stringBytesSettled (h : TakesLetters escaped letters)
    (left : ∀ more : List UInt8, more.length < letters.length → LettersText more →
      StringBytesSettled more) :
    StringBytesSettled (0x5C :: letters) := by
  intro taken
  cases h with
  | takes c more taking =>
    obtain ⟨shorter, -⟩ := taking []
    obtain ⟨expected, read⟩ := left _ (by simpa using shorter) more
      ((Utf8.encodeChar c).reverse ++ taken)
    refine ⟨expected, fun rest le => ?_⟩
    obtain ⟨shorter, read'⟩ := taking rest
    simp only [List.cons_append] at le ⊢
    rw [stringBytes]
    simp only [read']
    exact read rest _
  | fails cause failing =>
    refine ⟨.error cause, fun rest le => ?_⟩
    obtain ⟨stop, failed, same⟩ := failing rest
    simp only [List.cons_append] at le ⊢
    rw [stringBytes]
    simp only [failed]
    exact ⟨stop, rfl, same⟩

theorem LettersText.stringBytesSettled (h : LettersText letters) : StringBytesSettled letters := by
  generalize length : letters.length = n
  induction n using Nat.strongRecOn generalizing letters with
  | ind n ih =>
    subst length
    cases h with
    | nil =>
      intro taken
      refine ⟨.ok taken.reverse, fun rest le => ?_⟩
      simp only [List.nil_append]
      rw [stringBytes]
      exact ⟨_, rfl⟩
    | @cons letter others single more =>
      cases single with
      | plain notQuote notBackslash notControl =>
        exact (ih _ (by simp) more rfl).plain notQuote notBackslash notControl
      | escape known =>
        exact (more.takesLetters_escaped_letter known).stringBytesSettled
          fun left shorter text => ih _ (Nat.lt_succ_of_lt shorter) text rfl
      | number first second third fourth =>
        exact (more.takesLetters_escaped_number first second third fourth).stringBytesSettled
          fun left shorter text => ih _ (Nat.lt_succ_of_lt shorter) text rfl

/-- From after its opening quote a string comes to the same, whatever follows its closing one. -/
theorem LettersText.exists_agrees_stringRest (h : LettersText letters) :
    ∃ expected, ∀ rest, Agrees (stringRest (letters ++ 0x22 :: rest)) expected rest := by
  obtain ⟨expected, read⟩ := h.stringBytesSettled []
  cases expected with
  | error cause =>
    refine ⟨.error cause, fun rest => ?_⟩
    obtain ⟨stop, failed, same⟩ := read rest (length_le _)
    simp only [stringRest, failed]
    exact ⟨stop, rfl, same⟩
  | ok bytes =>
    generalize decoding : Utf8.decode bytes = decoded
    obtain ⟨chars, left⟩ := decoded
    cases left with
    | nil =>
      refine ⟨.ok (String.ofList chars), fun rest => ?_⟩
      obtain ⟨shorter, taken⟩ := read rest (length_le _)
      simp only [stringRest, taken, decoding]
      exact ⟨shorter, rfl⟩
    | cons b more =>
      refine ⟨.error (.notUtf8 (b :: more).length), fun rest => ?_⟩
      obtain ⟨shorter, taken⟩ := read rest (length_le _)
      simp only [stringRest, taken, decoding]
      exact ⟨_, rfl, rfl⟩

end NaturalKey.Json
