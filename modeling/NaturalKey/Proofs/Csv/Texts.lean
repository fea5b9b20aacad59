import NaturalKey.Csv
import NaturalKey.Proofs.Text.Blank
import NaturalKey.Proofs.Text.Utf8

/-!
The texts of fields that are UTF-8, and of no others. Some white space is taken off their bytes and
the rest off their characters, which comes to taking all of it off the texts.
-/

set_option autoImplicit false

namespace NaturalKey.Csv

open Text (AllSpace isSpace)

/-! ### White space in bytes -/

theorem isSpace_of_isAsciiSpace {c : Char} (small : c.toNat < 0x80)
    (h : isAsciiSpace (.ofNat c.toNat) = true) : isSpace c = true := by
  have spaces : ∀ n < 0x80, isAsciiSpace (.ofNat n) = true → isSpace (Char.ofNat n) = true := by
    decide
  have space := spaces c.toNat small h
  rwa [Char.ofNat_toNat] at space

theorem not_isAsciiSpace_of_le {b : UInt8} (large : 0x80 ≤ b.toNat) : isAsciiSpace b = false := by
  simp only [isAsciiSpace, Bool.or_eq_false_iff, beq_eq_false_iff_ne, ne_eq, ← UInt8.toNat_inj,
    UInt8.reduceToNat]
  omega

/-- A character goes as a whole or stays as a whole, when it is written as these bytes. -/
def GoesOrStays (c : Char) (bytes : List UInt8) : Prop :=
  isSpace c = true ∧ (∀ b ∈ bytes, isAsciiSpace b = true) ∨
    bytes ≠ [] ∧ ∀ b ∈ bytes, isAsciiSpace b = false

theorem goesOrStays_encodeChar (c : Char) : GoesOrStays c (Utf8.encodeChar c) := by
  rcases Utf8.encodeChar_cases c with ⟨small, bytes⟩ | ⟨-, large⟩
  · rw [bytes]
    cases space : isAsciiSpace (.ofNat c.toNat) with
    | true =>
      left
      exact ⟨isSpace_of_isAsciiSpace small space, List.forall_mem_singleton.mpr space⟩
    | false =>
      right
      exact ⟨List.cons_ne_nil _ _, List.forall_mem_singleton.mpr space⟩
  · right
    refine ⟨Utf8.encodeChar_ne_nil c, ?_⟩
    intro b member
    exact not_isAsciiSpace_of_le (large b member)

theorem GoesOrStays.reverse {c : Char} {bytes : List UInt8} (h : GoesOrStays c bytes) :
    GoesOrStays c bytes.reverse := by
  simpa only [GoesOrStays, ne_eq, List.reverse_eq_nil_iff, List.mem_reverse] using h

/-- What is dropped from the front of the bytes is white space at the front of the characters. -/
theorem exists_dropWhile_flatMap {write : Char → List UInt8} (h : ∀ c, GoesOrStays c (write c))
    (chars : List Char) :
    ∃ space more, chars = space ++ more ∧ AllSpace space ∧
      (chars.flatMap write).dropWhile isAsciiSpace = more.flatMap write := by
  induction chars with
  | nil => exact ⟨[], [], rfl, List.forall_mem_nil _, rfl⟩
  | cons c chars ih =>
    rcases h c with ⟨space, bytes⟩ | ⟨nonempty, bytes⟩
    · obtain ⟨spaces, more, rfl, allSpace, dropped⟩ := ih
      refine ⟨c :: spaces, more, rfl, List.forall_mem_cons.mpr ⟨space, allSpace⟩, ?_⟩
      rw [List.flatMap_cons, List.dropWhile_append_of_pos bytes, dropped]
    · refine ⟨[], c :: chars, rfl, List.forall_mem_nil _, ?_⟩
      obtain ⟨b, others, written⟩ := List.exists_cons_of_ne_nil nonempty
      have first := bytes b (written ▸ List.mem_cons_self)
      rw [List.flatMap_cons, written, List.cons_append, List.dropWhile_cons_of_neg]
      rw [first]
      exact Bool.false_ne_true

theorem exists_trimBytes_flatMap (chars : List Char) :
    ∃ before middle after, chars = before ++ middle ++ after ∧ AllSpace before ∧ AllSpace after ∧
      trimBytes (chars.flatMap Utf8.encodeChar) = middle.flatMap Utf8.encodeChar := by
  obtain ⟨before, rest, rfl, spaceBefore, front⟩ :=
    exists_dropWhile_flatMap goesOrStays_encodeChar chars
  obtain ⟨space, more, reversed, spaceAfter, back⟩ :=
    exists_dropWhile_flatMap (fun c => (goesOrStays_encodeChar c).reverse) rest.reverse
  have parts : rest = more.reverse ++ space.reverse := by
    rw [← List.reverse_append, ← reversed, List.reverse_reverse]
  refine ⟨before, more.reverse, space.reverse, ?_, spaceBefore, ?_, ?_⟩
  · rw [parts, List.append_assoc]
  · exact Text.allSpace_reverse.mpr spaceAfter
  · rw [trimBytes, front, List.reverse_flatMap, Function.comp_def, back, List.reverse_flatMap]
    simp only [Function.comp_def, List.reverse_reverse]

/-! ### Texts -/

/-- Bytes without the white space at their ends are those of a text that differs by white space at
its ends from the one that was written. -/
theorem exists_decode?_trimBytes (text : String) :
    ∃ rest, Utf8.decode? (trimBytes (Utf8.encode text)) = some rest ∧
      Text.trim rest = Text.trim text := by
  obtain ⟨before, middle, after, parts, spaceBefore, spaceAfter, trimmed⟩ :=
    exists_trimBytes_flatMap text.toList
  have whole : text = String.ofList before ++ String.ofList middle ++ String.ofList after := by
    rw [← String.toList_inj, parts]
    simp
  refine ⟨String.ofList middle, ?_, ?_⟩
  · rw [Utf8.encode, trimmed, ← Utf8.encode_ofList, Utf8.decode?_encode]
  · rw [whole, Text.trim_pad]
    · apply Text.isBlank_iff.mpr
      rwa [String.toList_ofList]
    · apply Text.isBlank_iff.mpr
      rwa [String.toList_ofList]

theorem exists_encode_of_isAsciiSpace {bytes : List UInt8}
    (h : ∀ b ∈ bytes, isAsciiSpace b = true) : ∃ text, bytes = Utf8.encode text := by
  refine ⟨String.ofList (bytes.map fun b => Char.ofNat b.toNat), ?_⟩
  rw [Utf8.encode_ofList, List.flatMap_map]
  induction bytes with
  | nil => rfl
  | cons b bytes ih =>
    have small : b.toNat < 0x80 := by
      apply Nat.lt_of_not_le
      intro large
      have space := h b List.mem_cons_self
      rw [not_isAsciiSpace_of_le large] at space
      cases space
    have others := ih fun other member => h other (List.mem_cons_of_mem _ member)
    rw [List.flatMap_cons, ← others, Utf8.encodeChar_ofNat small, UInt8.ofNat_toNat]
    rfl

theorem exists_append_trimBytes (bytes : List UInt8) :
    ∃ before after, bytes = before ++ trimBytes bytes ++ after ∧
      (∀ b ∈ before, isAsciiSpace b = true) ∧ ∀ b ∈ after, isAsciiSpace b = true := by
  refine ⟨bytes.takeWhile isAsciiSpace,
    ((bytes.dropWhile isAsciiSpace).reverse.takeWhile isAsciiSpace).reverse, ?_, ?_, ?_⟩
  · rw [trimBytes, List.append_assoc, ← List.reverse_append, List.takeWhile_append_dropWhile,
      List.reverse_reverse, List.takeWhile_append_dropWhile]
  · exact List.all_eq_true.mp List.all_takeWhile
  · intro b member
    exact List.all_eq_true.mp List.all_takeWhile b (List.mem_reverse.mp member)

theorem exists_encode_of_decode?_trimBytes {bytes : List UInt8} {rest : String}
    (h : Utf8.decode? (trimBytes bytes) = some rest) : ∃ text, bytes = Utf8.encode text := by
  obtain ⟨before, after, parts, spaceBefore, spaceAfter⟩ := exists_append_trimBytes bytes
  obtain ⟨first, rfl⟩ := exists_encode_of_isAsciiSpace spaceBefore
  obtain ⟨last, rfl⟩ := exists_encode_of_isAsciiSpace spaceAfter
  refine ⟨first ++ rest ++ last, ?_⟩
  rw [Utf8.encode_append, Utf8.encode_append, ← Utf8.decode?_eq_some_iff.mp h]
  exact parts

def Row.Holds (row : Row) (texts : List String) : Prop :=
  row.fields = texts.map Utf8.encode

theorem textsFrom_eq_ok_iff {row : Row} {index : Nat} {fields : List (List UInt8)}
    {texts : List String} :
    row.textsFrom index fields = .ok texts ↔
      ∃ raw : List String, fields = raw.map Utf8.encode ∧ texts = raw.map Text.trim := by
  constructor
  · intro read
    induction fields generalizing index texts with
    | nil =>
      cases read
      exact ⟨[], rfl, rfl⟩
    | cons field fields ih =>
      simp only [Row.textsFrom] at read
      split at read
      · cases read
      · rename_i rest decoded
        obtain ⟨text, rfl⟩ := exists_encode_of_decode?_trimBytes decoded
        obtain ⟨same, again, trimmed⟩ := exists_decode?_trimBytes text
        obtain rfl := Option.some.inj (decoded.symm.trans again)
        split at read
        · rename_i others found
          cases read
          obtain ⟨raw, rfl, rfl⟩ := ih found
          refine ⟨text :: raw, rfl, ?_⟩
          rw [trimmed, List.map_cons]
        · cases read
  · rintro ⟨raw, rfl, rfl⟩
    induction raw generalizing index with
    | nil => rfl
    | cons text raw ih =>
      obtain ⟨rest, decoded, trimmed⟩ := exists_decode?_trimBytes text
      simp only [List.map_cons, Row.textsFrom, decoded, ih, trimmed]

/-- The texts of a row are those that its fields are, without the white space at their ends. -/
theorem Row.texts_eq_ok_iff {row : Row} {texts : List String} :
    row.texts = .ok texts ↔ ∃ raw, row.Holds raw ∧ texts = raw.map Text.trim :=
  textsFrom_eq_ok_iff

theorem mapM_trim_eq_some_iff {fields : List (List UInt8)} {names : List String} :
    (fields.mapM fun field => (Utf8.decode? field).map Text.trim) = some names ↔
      ∃ raw : List String, fields = raw.map Utf8.encode ∧ names = raw.map Text.trim := by
  constructor
  · intro read
    induction fields generalizing names with
    | nil =>
      obtain rfl := Option.some.inj read
      exact ⟨[], rfl, rfl⟩
    | cons field fields ih =>
      rw [List.mapM_cons, Option.bind_eq_bind, Option.bind_eq_some_iff] at read
      obtain ⟨name, trimmed, read⟩ := read
      rw [Option.bind_eq_bind, Option.bind_eq_some_iff] at read
      obtain ⟨others, found, same⟩ := read
      obtain ⟨text, decoded, rfl⟩ := Option.map_eq_some_iff.mp trimmed
      obtain rfl := Utf8.decode?_eq_some_iff.mp decoded
      obtain ⟨raw, rfl, rfl⟩ := ih found
      obtain rfl := Option.some.inj same
      exact ⟨text :: raw, rfl, rfl⟩
  · rintro ⟨raw, rfl, rfl⟩
    rw [List.mapM_map]
    simp only [Function.comp_def, Utf8.decode?_encode, Option.map_some]
    exact List.mapM_pure

theorem Row.names?_eq_some_iff {row : Row} {names : List String} :
    row.names? = some names ↔ ∃ raw, row.Holds raw ∧ names = raw.map Text.trim :=
  mapM_trim_eq_some_iff

theorem Row.Holds.texts {row : Row} {raw : List String} (h : row.Holds raw) :
    row.texts = .ok (raw.map Text.trim) :=
  Row.texts_eq_ok_iff.mpr ⟨raw, h, rfl⟩

theorem Row.Holds.names? {row : Row} {raw : List String} (h : row.Holds raw) :
    row.names? = some (raw.map Text.trim) :=
  Row.names?_eq_some_iff.mpr ⟨raw, h, rfl⟩

theorem Row.names?_eq_none_iff {row : Row} : row.names? = none ↔ ∀ raw, ¬row.Holds raw := by
  constructor
  · intro unread raw holds
    rw [holds.names?] at unread
    cases unread
  · intro unwritten
    apply Option.eq_none_iff_forall_ne_some.mpr
    intro names read
    obtain ⟨raw, holds, -⟩ := Row.names?_eq_some_iff.mp read
    exact unwritten raw holds

end NaturalKey.Csv
