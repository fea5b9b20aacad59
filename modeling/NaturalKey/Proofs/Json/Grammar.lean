import NaturalKey.Proofs.Json.Number
import NaturalKey.Proofs.Json.Punctuation

/-!
The texts of JSON values by their grammar alone, whether or not they can be read: the number may be
too large, the escapes in a string may be no characters, and the brackets may be nested as deeply as
they like. A text starts with the first byte of its value and ends with the last one.
-/

set_option autoImplicit false

namespace NaturalKey.Json

/-! ### Numbers -/

structure DigitsText (bytes : List UInt8) : Prop where
  nonempty : bytes ≠ []
  allDigits : ∀ b ∈ bytes, isDigit b = true

/-- The whole part of a number. No other digit follows a leading zero. -/
inductive WholeText : List UInt8 → Prop
  | zero : WholeText [0x30]
  | digits {first : UInt8} {more : List UInt8} : isDigit first = true → first ≠ 0x30 →
      (∀ b ∈ more, isDigit b = true) → WholeText (first :: more)

inductive FractionText : List UInt8 → Prop
  | none : FractionText []
  | some {digits : List UInt8} : DigitsText digits → FractionText (0x2E :: digits)

inductive ExponentText : List UInt8 → Prop
  | none : ExponentText []
  | some {letter : UInt8} {downward : Bool} {sign digits : List UInt8} :
      isExponentLetter letter = true → ExponentSign downward sign → DigitsText digits →
      ExponentText (letter :: (sign ++ digits))

inductive NumberText : List UInt8 → Prop
  | parts {negative : Bool} {whole fraction exponent : List UInt8} :
      WholeText whole → FractionText fraction → ExponentText exponent →
      NumberText (signBytes negative ++ (whole ++ (fraction ++ exponent)))

/-! ### Strings -/

def IsHexDigit (b : UInt8) : Prop :=
  (hexDigit? b).isSome = true

/-- A byte that stands for itself, or an escape. The number of an escape need not be a character. -/
inductive LetterText : List UInt8 → Prop
  | plain {b : UInt8} : b ≠ 0x22 → b ≠ 0x5C → 0x20 ≤ b.toNat → LetterText [b]
  | escape {letter : UInt8} : letter ∈ [0x22, 0x5C, 0x2F, 0x62, 0x66, 0x6E, 0x72, 0x74] →
      LetterText [0x5C, letter]
  | number {w x y z : UInt8} : IsHexDigit w → IsHexDigit x → IsHexDigit y → IsHexDigit z →
      LetterText [0x5C, 0x75, w, x, y, z]

inductive LettersText : List UInt8 → Prop
  | nil : LettersText []
  | cons {letter more : List UInt8} : LetterText letter → LettersText more →
      LettersText (letter ++ more)

/-! ### Values -/

inductive ValueText : List UInt8 → Prop
  | null : ValueText [0x6E, 0x75, 0x6C, 0x6C]
  | yes : ValueText [0x74, 0x72, 0x75, 0x65]
  | no : ValueText [0x66, 0x61, 0x6C, 0x73, 0x65]
  | number {bytes : List UInt8} : NumberText bytes → ValueText bytes
  | string {letters : List UInt8} : LettersText letters →
      ValueText (0x22 :: (letters ++ [0x22]))
  | array {items : List (List UInt8)} {bytes : List UInt8} : (∀ item ∈ items, ValueText item) →
      ItemsOf (· = ·) true items bytes → ValueText (0x5B :: bytes)
  | object {members : List (List UInt8 × List UInt8)} {bytes : List UInt8} :
      (∀ member ∈ members, LettersText member.1) → (∀ member ∈ members, ValueText member.2) →
      MembersOf (· = ·) (· = ·) true members bytes → ValueText (0x7B :: bytes)

structure ObjectText (text : List UInt8) : Prop where
  value : ValueText text
  opening : text.head? = some 0x7B

/-- The text of an object with these members: what stands between the quotes of a name, and the text
of its value. -/
inductive ObjectWith (members : List (List UInt8 × List UInt8)) : List UInt8 → Prop
  | braces {bytes : List UInt8} : (∀ member ∈ members, LettersText member.1) →
      (∀ member ∈ members, ValueText member.2) → MembersOf (· = ·) (· = ·) true members bytes →
      ObjectWith members (0x7B :: bytes)

theorem WholeText.exists_first {bytes : List UInt8} (h : WholeText bytes) :
    ∃ first more, bytes = first :: more ∧ isDigit first = true := by
  cases h with
  | zero => exact ⟨_, _, rfl, by decide⟩
  | digits first _ _ => exact ⟨_, _, rfl, first⟩

theorem NumberText.starts {bytes : List UInt8} (h : NumberText bytes) : Starts bytes := by
  cases h with
  | @parts negative _ _ _ whole _ _ =>
    cases negative with
    | true => exact ⟨_, _, rfl, by decide⟩
    | false =>
      obtain ⟨first, more, rfl, digit⟩ := whole.exists_first
      exact ⟨first, _, rfl, not_isSpace_of_isDigit digit⟩

theorem ValueText.starts {text : List UInt8} (h : ValueText text) : Starts text := by
  cases h with
  | null => exact ⟨_, _, rfl, by decide⟩
  | yes => exact ⟨_, _, rfl, by decide⟩
  | no => exact ⟨_, _, rfl, by decide⟩
  | number h => exact h.starts
  | string _ => exact ⟨_, _, rfl, by decide⟩
  | array _ _ => exact ⟨_, _, rfl, by decide⟩
  | object _ _ _ => exact ⟨_, _, rfl, by decide⟩

theorem NumberText.head?_ne {text : List UInt8} (h : NumberText text) {b : UInt8}
    (noMinus : b ≠ 0x2D) (noDigit : isDigit b = false) : text.head? ≠ some b := by
  cases h with
  | @parts negative _ _ _ whole _ _ =>
    cases negative with
    | true =>
      rintro ⟨⟩
      exact noMinus rfl
    | false =>
      obtain ⟨first, more, rfl, digit⟩ := whole.exists_first
      rintro ⟨⟩
      rw [digit] at noDigit
      cases noDigit

theorem ObjectText.exists_members {text : List UInt8} (h : ObjectText text) :
    ∃ members bytes, text = 0x7B :: bytes ∧ (∀ member ∈ members, LettersText member.1) ∧
      (∀ member ∈ members, ValueText member.2) ∧
      MembersOf (· = ·) (· = ·) true members bytes := by
  obtain ⟨value, opening⟩ := h
  cases value with
  | object names values written => exact ⟨_, _, rfl, names, values, written⟩
  | number h => exact absurd opening (h.head?_ne (by decide) (by decide))
  | null => cases opening
  | yes => cases opening
  | no => cases opening
  | string _ => cases opening
  | array _ _ => cases opening

theorem ValueText.exists_letters {text : List UInt8} (h : ValueText text)
    (opening : text.head? = some 0x22) :
    ∃ letters, text = 0x22 :: (letters ++ [0x22]) ∧ LettersText letters := by
  cases h with
  | string letters => exact ⟨_, rfl, letters⟩
  | number h => exact absurd opening (h.head?_ne (by decide) (by decide))
  | null => cases opening
  | yes => cases opening
  | no => cases opening
  | array _ _ => cases opening
  | object _ _ _ => cases opening

theorem ObjectText.closing {text : List UInt8} (h : ObjectText text) :
    text.getLast? = some 0x7D := by
  obtain ⟨members, bytes, rfl, -, -, written⟩ := h.exists_members
  rw [List.getLast?_cons, written.getLast?_eq]
  rfl

end NaturalKey.Json
