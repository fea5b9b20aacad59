import NaturalKey.Json.StringLiteral
import NaturalKey.Json.Text
import NaturalKey.Proofs.Json.Reader
import NaturalKey.Proofs.Text.Utf8

/-!
Reading the strings that are written. A character may stand for itself or be spelled out in several
ways; whichever is chosen, what is read is the character.
-/

set_option autoImplicit false

namespace NaturalKey.Json

/-- The ways to spell a character out, after the backslash: by a letter, by its number, or by the
two surrogates of its number. -/
inductive SpellsEscape : Char → List UInt8 → Prop
  | letter {letter : UInt8} {c : Char} : simpleEscape? letter = some c → SpellsEscape c [letter]
  | number {w x y z : UInt8} {n : Nat} : hexNumber? w x y z = some n →
      isHighSurrogate n = false → isLowSurrogate n = false →
      SpellsEscape (Char.ofNat n) [0x75, w, x, y, z]
  | pair {w x y z w' x' y' z' : UInt8} {high low : Nat} : hexNumber? w x y z = some high →
      isHighSurrogate high = true → hexNumber? w' x' y' z' = some low →
      isLowSurrogate low = true →
      SpellsEscape (Char.ofNat (combineSurrogates high low))
        [0x75, w, x, y, z, 0x5C, 0x75, w', x', y', z']

/-- The ways to write a character between quotes. -/
inductive SpellsChar : Char → List UInt8 → Prop
  | plain {c : Char} : 0x20 ≤ c.toNat → c ≠ '\x22' → c ≠ '\\' → SpellsChar c (Utf8.encodeChar c)
  | escape {c : Char} {bytes : List UInt8} : SpellsEscape c bytes → SpellsChar c (0x5C :: bytes)

/-- The ways to write a text between quotes. -/
inductive SpellsText : List Char → List UInt8 → Prop
  | nil : SpellsText [] []
  | cons {c : Char} {chars : List Char} {bytes more : List UInt8} : SpellsChar c bytes →
      SpellsText chars more → SpellsText (c :: chars) (bytes ++ more)

/-! ### Reading -/

theorem takes_hexNumber {w x y z : UInt8} {n : Nat} (h : hexNumber? w x y z = some n)
    (rest : List UInt8) : Takes (hexNumber (w :: x :: y :: z :: rest)) n rest := by
  simp only [hexNumber]
  split
  · rename_i m found
    rw [h] at found
    cases found
    exact ⟨_, rfl⟩
  · simp_all

theorem not_isLowSurrogate_of_isHighSurrogate {n : Nat} (h : isHighSurrogate n = true) :
    isLowSurrogate n = false := by
  simp only [isHighSurrogate, isLowSurrogate, Bool.and_eq_true, decide_eq_true_eq,
    Bool.and_eq_false_iff, decide_eq_false_iff_not] at h ⊢
  omega

theorem takes_lowSurrogate {w x y z : UInt8} {low : Nat} (value : hexNumber? w x y z = some low)
    (isLow : isLowSurrogate low = true) (rest : List UInt8) :
    Takes (lowSurrogate (0x5C :: 0x75 :: w :: x :: y :: z :: rest)) low rest := by
  obtain ⟨shorter, taken⟩ := takes_hexNumber value rest
  simp only [lowSurrogate, taken, isLow]
  exact ⟨_, rfl⟩

theorem takes_unicodeEscape_number {w x y z : UInt8} {n : Nat}
    (value : hexNumber? w x y z = some n) (notHigh : isHighSurrogate n = false)
    (notLow : isLowSurrogate n = false) (rest : List UInt8) :
    Takes (unicodeEscape (w :: x :: y :: z :: rest)) (Char.ofNat n) rest := by
  obtain ⟨shorter, taken⟩ := takes_hexNumber value rest
  simp only [unicodeEscape, taken, notLow, notHigh]
  exact ⟨_, rfl⟩

theorem takes_unicodeEscape_pair {w x y z : UInt8} {high low : Nat}
    (value : hexNumber? w x y z = some high) (isHigh : isHighSurrogate high = true)
    {more rest : List UInt8} (second : Takes (lowSurrogate more) low rest) :
    Takes (unicodeEscape (w :: x :: y :: z :: more))
      (Char.ofNat (combineSurrogates high low)) rest := by
  obtain ⟨shorter, taken⟩ := takes_hexNumber value more
  obtain ⟨shorter', taken'⟩ := second
  simp only [unicodeEscape, taken, isHigh, not_isLowSurrogate_of_isHighSurrogate isHigh, taken']
  exact ⟨_, rfl⟩

theorem takes_escaped_unicodeEscape {c : Char} {bytes rest : List UInt8}
    (h : Takes (unicodeEscape bytes) c rest) : Takes (escaped (0x75 :: bytes)) c rest := by
  have noLetter : simpleEscape? 0x75 = none := by decide
  obtain ⟨shorter, taken⟩ := h
  simp only [escaped, noLetter, taken]
  exact ⟨_, rfl⟩

theorem takes_escaped {c : Char} {bytes : List UInt8} (h : SpellsEscape c bytes)
    (rest : List UInt8) : Takes (escaped (bytes ++ rest)) c rest := by
  cases h with
  | letter found =>
    simp only [List.cons_append, List.nil_append, escaped, found]
    exact ⟨Nat.lt_succ_self _, rfl⟩
  | number value notHigh notLow =>
    exact takes_escaped_unicodeEscape (takes_unicodeEscape_number value notHigh notLow rest)
  | pair value isHigh value' isLow =>
    exact takes_escaped_unicodeEscape
      (takes_unicodeEscape_pair value isHigh (takes_lowSurrogate value' isLow rest))

theorem length_le_of_append_le {bound : Nat} {bytes more : List UInt8}
    (le : (bytes ++ more).length ≤ bound) : more.length ≤ bound :=
  Nat.le_trans (List.sublist_append_right bytes more).length_le le

theorem stringBytes_append {bound : Nat} (taken : List UInt8) {bytes : List UInt8}
    (ordinary : ∀ b ∈ bytes, b ≠ 0x22 ∧ b ≠ 0x5C ∧ 0x20 ≤ b.toNat) (more : List UInt8)
    (le : (bytes ++ more).length ≤ bound) :
    stringBytes taken (bytes ++ more) le =
      stringBytes (bytes.reverse ++ taken) more (length_le_of_append_le le) := by
  induction bytes generalizing taken with
  | nil => rfl
  | cons b bytes ih =>
    obtain ⟨notQuote, notBackslash, notControl⟩ := ordinary b (by simp)
    have others := ih (b :: taken) (fun c member => ordinary c (by simp [member]))
      (Nat.le_trans (by simp) le)
    simp only [List.cons_append]
    rw [stringBytes]
    simp only [if_neg notQuote, if_neg notBackslash, if_neg (Nat.not_lt.mpr notControl)]
    rw [others]
    simp only [List.reverse_cons, List.append_assoc, List.singleton_append]

theorem ordinary_encodeChar {c : Char} (large : 0x20 ≤ c.toNat) (notQuote : c ≠ '\x22')
    (notBackslash : c ≠ '\\') :
    ∀ b ∈ Utf8.encodeChar c, b ≠ 0x22 ∧ b ≠ 0x5C ∧ 0x20 ≤ b.toNat := by
  rcases Utf8.encodeChar_cases c with ⟨small, single⟩ | ⟨-, above⟩
  · have value : (UInt8.ofNat c.toNat).toNat = c.toNat := by
      rw [UInt8.toNat_ofNat', Nat.mod_eq_of_lt (by omega)]
    rw [single]
    intro b member
    obtain rfl := List.mem_singleton.mp member
    refine ⟨fun equal => notQuote ?_, fun equal => notBackslash ?_, by omega⟩
    · apply Char.toNat_inj.mp
      rw [← value, equal]
      rfl
    · apply Char.toNat_inj.mp
      rw [← value, equal]
      rfl
  · intro b member
    have := above b member
    refine ⟨?_, ?_, by omega⟩
    · rintro rfl
      simp at this
    · rintro rfl
      simp at this

theorem stringBytes_spellsChar {bound : Nat} (taken : List UInt8) {c : Char} {bytes : List UInt8}
    (h : SpellsChar c bytes) (more : List UInt8) (le : (bytes ++ more).length ≤ bound) :
    stringBytes taken (bytes ++ more) le =
      stringBytes ((Utf8.encodeChar c).reverse ++ taken) more
        (length_le_of_append_le le) := by
  cases h with
  | plain large notQuote notBackslash =>
    exact stringBytes_append taken (ordinary_encodeChar large notQuote notBackslash) more le
  | escape spelled =>
    obtain ⟨shorter, read⟩ := takes_escaped spelled more
    simp only [List.cons_append]
    rw [stringBytes]
    simp only [read]
    rfl

theorem takes_stringBytes {bound : Nat} (taken : List UInt8) {chars : List Char}
    {bytes : List UInt8} (h : SpellsText chars bytes) (rest : List UInt8)
    (le : (bytes ++ 0x22 :: rest).length ≤ bound) :
    Takes (stringBytes taken (bytes ++ 0x22 :: rest) le)
      (taken.reverse ++ chars.flatMap Utf8.encodeChar) rest := by
  induction h generalizing taken with
  | nil =>
    simp only [List.nil_append]
    rw [stringBytes]
    exact ⟨by simp at le; omega, by simp⟩
  | @cons c chars bytes more spelled _ ih =>
    have others := ih ((Utf8.encodeChar c).reverse ++ taken) (Nat.le_trans (by simp) le)
    simp only [List.append_assoc] at le ⊢
    rw [stringBytes_spellsChar taken spelled _ le]
    simpa using others

/-- Between its quotes a text is read as what it spells. -/
theorem takes_stringRest {chars : List Char} {bytes : List UInt8} (h : SpellsText chars bytes)
    (rest : List UInt8) :
    Takes (stringRest (bytes ++ 0x22 :: rest)) (String.ofList chars) rest := by
  obtain ⟨shorter, taken⟩ := takes_stringBytes [] h rest (Nat.le_refl _)
  have decoded := Utf8.decodeFrom_flatMap_encodeChar [] chars
  simp only [List.reverse_nil, List.nil_append] at taken decoded
  simp only [stringRest, taken, Utf8.decode, decoded]
  exact ⟨shorter, rfl⟩

end NaturalKey.Json
