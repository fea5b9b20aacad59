import NaturalKey.Proofs.Json.Spelling
import NaturalKey.Proofs.Json.Value

/-!
What is written stands for the value: the text on one line spells it.
-/

set_option autoImplicit false

namespace NaturalKey.Json

theorem Number.ofDigits?_natAbs (value : Int) (range) :
    Number.ofDigits? (decide (value < 0)) value.natAbs = some (.integer value range) := by
  simp only [Number.ofDigits?]
  by_cases negative : value < 0
  · have bounds : 0 < value.natAbs ∧ value.natAbs ≤ 0x8000000000000000 := by omega
    have same : -(value.natAbs : Int) = value := by omega
    simp only [decide_eq_true negative, if_true, dif_pos bounds, same]
  · have bound : value.natAbs < 0x10000000000000000 := by omega
    have same : (value.natAbs : Int) = value := by omega
    simp only [decide_eq_false negative, Bool.false_eq_true, if_false, dif_pos bound, same]

theorem Number.exists_integer_of_ofDigits? {negative : Bool} {n : Nat} {number : Number}
    (h : Number.ofDigits? negative n = some number) : ∃ value range,
      number = .integer value range ∧ negative = decide (value < 0) ∧ n = value.natAbs := by
  simp only [Number.ofDigits?] at h
  cases negative with
  | true =>
    simp only [if_true] at h
    split at h
    · rename_i bounds
      have negative : -(n : Int) < 0 := by omega
      cases h
      exact ⟨_, _, rfl, (decide_eq_true negative).symm, by omega⟩
    · cases h
  | false =>
    simp only [Bool.false_eq_true, if_false] at h
    split at h
    · have positive : ¬(n : Int) < 0 := by omega
      cases h
      exact ⟨_, _, rfl, (decide_eq_false positive).symm, by omega⟩
    · cases h

theorem encode_integerText (value : Int) : Utf8.encode (integerText value) =
    signBytes (decide (value < 0)) ++ digitBytes (Nat.toDigits 10 value.natAbs) := by
  rw [← flatMap_encodeChar_digits (wholePart_toDigits value.natAbs).allDigits, integerText,
    Utf8.encode_ofList]
  by_cases negative : value < 0
  · simp only [negative, decide_true, if_true, List.flatMap_cons]
    rfl
  · simp only [negative, decide_false, if_false]
    rfl

theorem spellsNumber_integerText (value : Int) (range) :
    SpellsNumber (.integer value range) (Utf8.encode (integerText value)) := by
  rw [encode_integerText]
  exact .integer (Number.ofDigits?_natAbs value range)

/-! ### Strings -/

theorem spellsEscape_control :
    ∀ n < 0x20, SpellsEscape (Char.ofNat n)
      (['u', '0', '0', Nat.digitChar (n / 16), Nat.digitChar (n % 16)].flatMap
        Utf8.encodeChar) := by
  have digits : ∀ n < 0x20,
      ['u', '0', '0', Nat.digitChar (n / 16), Nat.digitChar (n % 16)].flatMap Utf8.encodeChar =
        [0x75, 0x30, 0x30, .ofNat (Nat.digitChar (n / 16)).toNat,
          .ofNat (Nat.digitChar (n % 16)).toNat] ∧
      hexNumber? 0x30 0x30 (.ofNat (Nat.digitChar (n / 16)).toNat)
        (.ofNat (Nat.digitChar (n % 16)).toNat) = some n ∧
      isHighSurrogate n = false ∧ isLowSurrogate n = false := by
    decide
  intro n small
  obtain ⟨bytes, value, notHigh, notLow⟩ := digits n small
  rw [bytes]
  exact .number value notHigh notLow

theorem spellsChar_letter (letter : UInt8) {c : Char} (found : simpleEscape? letter = some c)
    {text : List Char} (bytes : text.flatMap Utf8.encodeChar = [0x5C, letter]) :
    SpellsChar c (text.flatMap Utf8.encodeChar) := by
  rw [bytes]
  exact .escape (.letter found)

theorem spellsChar_escape (c : Char) : SpellsChar c ((escape c).flatMap Utf8.encodeChar) := by
  simp only [escape]
  split
  · subst c
    exact spellsChar_letter 0x22 rfl rfl
  split
  · subst c
    exact spellsChar_letter 0x5C rfl rfl
  split
  · subst c
    exact spellsChar_letter 0x62 rfl rfl
  split
  · subst c
    exact spellsChar_letter 0x66 rfl rfl
  split
  · subst c
    exact spellsChar_letter 0x6E rfl rfl
  split
  · subst c
    exact spellsChar_letter 0x72 rfl rfl
  split
  · subst c
    exact spellsChar_letter 0x74 rfl rfl
  split
  · have spelled := spellsEscape_control c.toNat ‹_›
    rw [Char.ofNat_toNat] at spelled
    exact .escape spelled
  · rw [List.flatMap_singleton]
    exact .plain (Nat.not_lt.mp ‹_›) ‹_› ‹_›

theorem spellsText_escape (chars : List Char) :
    SpellsText chars ((chars.flatMap escape).flatMap Utf8.encodeChar) := by
  induction chars with
  | nil => exact .nil
  | cons c chars ih =>
    rw [List.flatMap_cons, List.flatMap_append]
    exact .cons (spellsChar_escape c) ih

theorem encode_stringText (text : String) :
    Utf8.encode (stringText text) =
      0x22 :: ((text.toList.flatMap escape).flatMap Utf8.encodeChar ++ [0x22]) := by
  rw [stringText, Utf8.encode_ofList, List.cons_append, List.flatMap_cons, List.flatMap_append]
  rfl

/-! ### Values -/

variable {f : Number → Number}

theorem lead_ite (first : Bool) : Lead first (if first then [] else [0x2C]) := by
  cases first with
  | true => exact .first space_nil
  | false => exact .comma space_nil space_nil

theorem encode_lead (first : Bool) :
    Utf8.encode (if first then "" else ",") = if first then [] else [0x2C] := by
  cases first <;> decide

theorem spellsItems_compactItems {items : List Json}
    (h : ∀ item ∈ items, Spells (item.mapNumbers f) (Utf8.encode item.compact)) (first : Bool) :
    SpellsItems first (mapNumbersAll f items)
      (Utf8.encode (compactItems first items) ++ [0x5D]) := by
  induction items generalizing first with
  | nil => exact .close space_nil
  | cons item rest ih =>
    have others := ih (fun other member => h other (List.mem_cons_of_mem _ member)) false
    have spelled := SpellsItems.more (lead_ite first) (h item (by simp)) others
    rw [compactItems, mapNumbersAll, Utf8.encode_append, Utf8.encode_append, encode_lead]
    simpa using spelled

theorem spellsMembers_compactMembers {members : List (String × Json)}
    (h : ∀ entry ∈ members, Spells (entry.2.mapNumbers f) (Utf8.encode entry.2.compact))
    (first : Bool) :
    SpellsMembers first (mapMembersNumbers f members)
      (Utf8.encode (compactMembers first members) ++ [0x7D]) := by
  induction members generalizing first with
  | nil => exact .close space_nil
  | cons entry rest ih =>
    obtain ⟨name, value⟩ := entry
    have others := ih (fun other member => h other (List.mem_cons_of_mem _ member)) false
    have spelled := SpellsMembers.more (lead_ite first)
      (spellsText_escape name.toList) space_nil space_nil (h (name, value) (by simp)) others
    have colon : Utf8.encode ":" = [0x3A] := by decide
    simp only [compactMembers, mapMembersNumbers, Utf8.encode_append, encode_lead, colon,
      encode_stringText]
    simpa using spelled

/-- The text on one line spells the value, its numbers being what their texts spell. -/
theorem spells_compact
    (numbers : ∀ number : Number, SpellsNumber (f number) (Utf8.encode number.text))
    (json : Json) : Spells (json.mapNumbers f) (Utf8.encode json.compact) := by
  induction json using nestedInduction with
  | null => exact .null
  | bool value =>
    cases value with
    | true => exact .yes
    | false => exact .no
  | number value => exact .number (numbers value)
  | string value =>
    rw [compact, encode_stringText]
    exact .string (spellsText_escape value.toList)
  | array items ih =>
    have brackets : Utf8.encode "[" = [0x5B] ∧ Utf8.encode "]" = [0x5D] := by decide
    rw [compact, Utf8.encode_append, Utf8.encode_append, brackets.1, brackets.2]
    exact .array (spellsItems_compactItems ih true)
  | object members ih =>
    have braces : Utf8.encode "\x7b" = [0x7B] ∧ Utf8.encode "\x7d" = [0x7D] := by decide
    rw [compact, Utf8.encode_append, Utf8.encode_append, braces.1, braces.2]
    exact .object (spellsMembers_compactMembers ih true)

end NaturalKey.Json
