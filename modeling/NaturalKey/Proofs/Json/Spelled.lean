import NaturalKey.Proofs.Json.Grammar
import NaturalKey.Proofs.Json.Text

/-!
What spells a value is a text of the grammar. The grammar has more texts than that: those of numbers
that are too large, and of strings that are no text.
-/

set_option autoImplicit false

namespace NaturalKey.Json

/-! ### Numbers -/

theorem isDigit_of_mem_digitBytes {digits : List Char}
    (allDigits : ∀ c ∈ digits, c.isDigit = true) :
    ∀ b ∈ digitBytes digits, isDigit b = true := by
  intro b member
  obtain ⟨c, among, rfl⟩ := List.mem_map.mp member
  exact isDigit_digitByte (allDigits c among)

theorem digitsText_digitBytes {digits : List Char} (nonempty : digits ≠ [])
    (allDigits : ∀ c ∈ digits, c.isDigit = true) : DigitsText (digitBytes digits) where
  nonempty := by simpa [digitBytes] using nonempty
  allDigits := isDigit_of_mem_digitBytes allDigits

theorem WholePart.wholeText {digits : List Char} (h : WholePart digits) :
    WholeText (digitBytes digits) := by
  obtain ⟨nonempty, allDigits, noLeadingZero⟩ := h
  cases digits with
  | nil => contradiction
  | cons c more =>
    have digit : c.isDigit = true := allDigits c List.mem_cons_self
    by_cases zero : c = '0'
    · subst zero
      rw [noLeadingZero more rfl]
      exact .zero
    · exact .digits (isDigit_digitByte digit) (digitByte_ne_zero digit zero)
        (isDigit_of_mem_digitBytes fun d among => allDigits d (List.mem_cons_of_mem _ among))

theorem SpellsExponent.exponentText {exponent : Int} {tail : List UInt8}
    (h : SpellsExponent exponent tail) : ExponentText tail := by
  cases h with
  | none => exact .none
  | some letter signed allDigits _ =>
    exact .some letter signed (digitsText_digitBytes (List.cons_ne_nil _ _) allDigits)

theorem fractionText_fractionBytes {fraction : List Char}
    (allDigits : ∀ c ∈ fraction, c.isDigit = true) : FractionText (fractionBytes fraction) := by
  rw [fractionBytes]
  split
  · exact .none
  · rename_i nonempty
    exact .some (digitsText_digitBytes nonempty allDigits)

theorem numberText_toDigits (negative : Bool) (n : Nat) :
    NumberText (signBytes negative ++ digitBytes (Nat.toDigits 10 n)) := by
  have whole := @NumberText.parts negative _ _ _ (wholePart_toDigits n).wholeText .none .none
  rwa [List.append_nil, List.append_nil] at whole

theorem numberText_integerText (value : Int) : NumberText (Utf8.encode (integerText value)) := by
  rw [encode_integerText]
  exact numberText_toDigits _ _

theorem SpellsNumber.numberText {number : Number} {text : List UInt8}
    (h : SpellsNumber number text) :
    NumberText text := by
  cases h with
  | @integer negative n _ _ => exact numberText_toDigits negative n
  | double whole fraction exponent _ _ _ =>
    exact .parts whole.wholeText (fractionText_fractionBytes fraction) exponent.exponentText

/-! ### Strings -/

theorem LettersText.append_of_ordinary {bytes more : List UInt8}
    (ordinary : ∀ b ∈ bytes, b ≠ 0x22 ∧ b ≠ 0x5C ∧ 0x20 ≤ b.toNat) (h : LettersText more) :
    LettersText (bytes ++ more) := by
  induction bytes with
  | nil => exact h
  | cons b bytes ih =>
    obtain ⟨notQuote, notBackslash, large⟩ := ordinary b List.mem_cons_self
    have others := ih fun other among => ordinary other (List.mem_cons_of_mem _ among)
    exact @LettersText.cons [b] _ (.plain notQuote notBackslash large) others

theorem mem_of_simpleEscape? {letter : UInt8} {c : Char} (h : simpleEscape? letter = some c) :
    letter ∈ [0x22, 0x5C, 0x2F, 0x62, 0x66, 0x6E, 0x72, 0x74] := by
  by_contra other
  simp only [List.mem_cons, List.not_mem_nil, or_false, not_or] at other
  simp [simpleEscape?, other] at h

theorem letterText_of_hexNumber? {w x y z : UInt8} {n : Nat} (h : hexNumber? w x y z = some n) :
    LetterText [0x5C, 0x75, w, x, y, z] := by
  simp only [hexNumber?, Option.bind_eq_bind, Option.bind_eq_some_iff] at h
  obtain ⟨_, first, _, second, _, third, _, fourth, -⟩ := h
  have digit {b : UInt8} {value : Nat} (found : hexDigit? b = some value) : IsHexDigit b := by
    rw [IsHexDigit, found]
    rfl
  exact .number (digit first) (digit second) (digit third) (digit fourth)

theorem SpellsEscape.append {c : Char} {bytes more : List UInt8} (h : SpellsEscape c bytes)
    (others : LettersText more) : LettersText (0x5C :: bytes ++ more) := by
  cases h with
  | letter found => exact .cons (.escape (mem_of_simpleEscape? found)) others
  | number value _ _ => exact .cons (letterText_of_hexNumber? value) others
  | pair high _ low _ =>
    exact @LettersText.cons [0x5C, 0x75, _, _, _, _] _ (letterText_of_hexNumber? high)
      (.cons (letterText_of_hexNumber? low) others)

theorem SpellsText.lettersText {chars : List Char} {bytes : List UInt8}
    (h : SpellsText chars bytes) :
    LettersText bytes := by
  induction h with
  | nil => exact .nil
  | cons spelled _ others =>
    cases spelled with
    | plain large notQuote notBackslash =>
      exact others.append_of_ordinary (ordinary_encodeChar large notQuote notBackslash)
    | escape escaped => exact escaped.append others

/-! ### Values -/

section Values

variable {ι : Type} {bytes : List UInt8}

theorem ItemsOf.valueText {Spelled : ι → List UInt8 → Prop} {items : List ι}
    (h : ItemsOf Spelled true items bytes)
    (values : ∀ item ∈ items, ∀ text, Spelled item text → ValueText text) :
    ValueText (0x5B :: bytes) := by
  obtain ⟨pairs, rfl, each, written⟩ := h.exists_texts
  refine .array (List.forall_mem_map.mpr fun pair among => ?_) (itemsOf_map_iff.mpr written)
  exact values _ (List.mem_map_of_mem among) _ (each pair among)

theorem MembersOf.valueText {Spelled : ι → List UInt8 → Prop} {members : List (String × ι)}
    (h : MembersOf SpellsName Spelled true members bytes)
    (values : ∀ member ∈ members, ∀ text, Spelled member.2 text → ValueText text) :
    ValueText (0x7B :: bytes) := by
  obtain ⟨entries, each, written⟩ := h.exists_letters
  refine .object (fun entry among => ?_) (fun entry among => ?_) written
  · obtain ⟨member, -, named, -⟩ := each entry among
    exact named.lettersText
  · obtain ⟨member, listed, -, spelled⟩ := each entry among
    exact values member listed _ spelled

end Values

theorem Spells.valueText {json : Json} {text : List UInt8} (h : Spells json text) :
    ValueText text := by
  induction json using nestedInduction generalizing text with
  | null =>
    cases h
    exact .null
  | bool value =>
    cases h with
    | yes => exact .yes
    | no => exact .no
  | number value =>
    cases h with
    | number spelled => exact .number spelled.numberText
  | string value =>
    cases h with
    | string spelled => exact .string spelled.lettersText
  | array items ih =>
    cases h with
    | array spelled => exact spelled.itemsOf.valueText fun item among _ => ih item among
  | object members ih =>
    cases h with
    | object spelled => exact spelled.membersOf.valueText fun member among _ => ih member among

end NaturalKey.Json
