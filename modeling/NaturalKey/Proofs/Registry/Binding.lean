import Mathlib.Data.List.TakeDrop
import NaturalKey.Proofs.Tag
import NaturalKey.Registry

/-!
Bindings as they are written: a type, an equals sign and a field, with any white space around the
type and around the field.
-/

set_option autoImplicit false

namespace NaturalKey.Binding

theorem splitAtEquals?_append {before : String} (first : '=' ∉ before.toList) (after : String) :
    splitAtEquals? (before ++ "=" ++ after) = some (before, after) := by
  have chars : (before ++ "=" ++ after).toList = before.toList ++ '=' :: after.toList := by
    simp
  have others : ∀ c ∈ before.toList, (c != '=') = true := by
    intro c member
    apply bne_iff_ne.mpr
    rintro rfl
    exact first member
  have split : (before.toList ++ '=' :: after.toList).span (· != '=') =
      (before.toList, '=' :: after.toList) := by
    rw [List.span_eq_takeWhile_dropWhile, List.takeWhile_append_of_pos others,
      List.dropWhile_append_of_pos others]
    simp
  simp only [splitAtEquals?, chars, split, String.ofList_toList]

/-- A type and a field that are not blank are a binding, without the white space around them. -/
theorem parse_append {before after : String} (first : '=' ∉ before.toList)
    (recordType : Text.isBlank before = false) (field : Text.isBlank after = false) :
    parse (before ++ "=" ++ after) =
      .ok ⟨⟨Text.trim before, (Text.isBlank_trim before).trans recordType⟩, Text.trim after⟩ := by
  have nonempty := Text.trim_ne_empty field
  have typed : Text.isBlank (Text.trim before) = false :=
    (Text.isBlank_trim before).trans recordType
  unfold parse
  simp only [splitAtEquals?_append first, Tag.ofText_of_not_isBlank typed]
  rw [if_neg (mt String.isEmpty_iff.mp nonempty)]

theorem splitAtEquals?_eq_some_iff {text before after : String} :
    splitAtEquals? text = some (before, after) ↔
      '=' ∉ before.toList ∧ text = before ++ "=" ++ after := by
  constructor
  · intro split
    simp only [splitAtEquals?, List.span_eq_takeWhile_dropWhile] at split
    cases rest : text.toList.dropWhile (· != '=') with
    | nil =>
      rw [rest] at split
      cases split
    | cons c more =>
      rw [rest] at split
      cases split
      have stops : (c != '=') = false := by
        have head := List.head?_dropWhile_not (· != '=') text.toList
        rwa [rest] at head
      obtain rfl : c = '=' := by simpa using stops
      constructor
      · intro member
        rw [String.toList_ofList] at member
        have other := List.all_eq_true.mp (List.all_takeWhile (p := (· != '='))) '=' member
        exact bne_iff_ne.mp other rfl
      · apply String.toList_inj.mp
        have whole := List.takeWhile_append_dropWhile (p := (· != '=')) (l := text.toList)
        rw [rest] at whole
        simpa using whole.symm
  · rintro ⟨first, rfl⟩
    exact splitAtEquals?_append first after

/-- What is read as a binding is a type and a field that are not blank. -/
theorem exists_of_parse {text : String} {binding : Binding} (h : parse text = .ok binding) :
    ∃ before after, '=' ∉ before.toList ∧ text = before ++ "=" ++ after ∧
      Text.isBlank before = false ∧ Text.isBlank after = false ∧
      binding.recordType.text = Text.trim before ∧ binding.field = Text.trim after := by
  unfold parse at h
  split at h
  · cases h
  · rename_i before after split
    obtain ⟨first, rfl⟩ := splitAtEquals?_eq_some_iff.mp split
    dsimp only at h
    split at h
    · cases h
    · rename_i nonempty
      split at h
      · rename_i recordType typed
        cases h
        have typeText := Tag.ofText_eq_ok_iff.mp typed
        refine ⟨before, after, first, rfl, ?_, ?_, typeText, rfl⟩
        · rw [← Text.isBlank_trim, ← typeText]
          exact recordType.nonBlank
        · rw [← Bool.not_eq_true, ← Text.trim_eq_empty_iff]
          exact mt String.isEmpty_iff.mpr nonempty
      · cases h

theorem isBlank_field_of_parse {text : String} {binding : Binding} (h : parse text = .ok binding) :
    Text.isBlank binding.field = false := by
  obtain ⟨before, after, -, -, -, field, -, same⟩ := exists_of_parse h
  rw [same, Text.isBlank_trim, field]

/-- Nothing but the form of a text is wrong with it if it is no binding. -/
theorem exists_invalid_of_parse {text : String} {fault : Fault} (h : parse text = .error fault) :
    ∃ violation, fault = .invalid violation := by
  unfold parse at h
  split at h
  · cases h
    exact ⟨_, rfl⟩
  · dsimp only at h
    split at h
    · cases h
      exact ⟨_, rfl⟩
    · split at h
      · cases h
      · rename_i refused
        cases h
        rw [Tag.ofText] at refused
        split at refused
        · cases refused
        · cases refused
          exact ⟨_, rfl⟩

/-! ### Spellings -/

/-- A way to write a binding. -/
structure Spelling where
  beforeType : String
  recordType : String
  afterType : String
  beforeField : String
  field : String
  afterField : String

namespace Spelling

def text (spelling : Spelling) : String :=
  spelling.beforeType ++ spelling.recordType ++ spelling.afterType ++ "=" ++
    (spelling.beforeField ++ spelling.field ++ spelling.afterField)

/-- The type and the field have no white space at their ends, and around them is nothing else. The
field may contain equals signs. -/
structure Proper (spelling : Spelling) : Prop where
  beforeType : Text.isBlank spelling.beforeType = true
  afterType : Text.isBlank spelling.afterType = true
  beforeField : Text.isBlank spelling.beforeField = true
  afterField : Text.isBlank spelling.afterField = true
  typeBare : Text.trim spelling.recordType = spelling.recordType
  typeNonempty : spelling.recordType ≠ ""
  noEquals : '=' ∉ spelling.recordType.toList
  fieldBare : Text.trim spelling.field = spelling.field
  fieldNonempty : spelling.field ≠ ""

def Spells (spelling : Spelling) (binding : Binding) : Prop :=
  spelling.recordType = binding.recordType.text ∧ spelling.field = binding.field

theorem Spells.eq {spelling : Spelling} {binding other : Binding} (h : spelling.Spells binding)
    (h' : spelling.Spells other) : binding = other := by
  have recordType := Tag.ext_text (h.1.symm.trans h'.1)
  have field : binding.field = other.field := h.2.symm.trans h'.2
  cases binding
  cases other
  simp_all

theorem not_mem_of_isBlank {space : String} (h : Text.isBlank space = true) :
    '=' ∉ space.toList := by
  intro member
  exact absurd (Text.isBlank_iff.mp h '=' member) (by decide)

/-- The first of the equals signs is the one between the type and the field. -/
theorem Proper.first {spelling : Spelling} (h : spelling.Proper) :
    '=' ∉ (spelling.beforeType ++ spelling.recordType ++ spelling.afterType).toList := by
  simp only [String.toList_append, List.mem_append, not_or]
  exact ⟨⟨not_mem_of_isBlank h.beforeType, h.noEquals⟩, not_mem_of_isBlank h.afterType⟩

theorem Proper.exists_parse {spelling : Spelling} (h : spelling.Proper) :
    ∃ binding, parse spelling.text = .ok binding ∧ spelling.Spells binding := by
  have typeTrim := (Text.trim_pad h.beforeType h.afterType spelling.recordType).trans h.typeBare
  have fieldTrim := (Text.trim_pad h.beforeField h.afterField spelling.field).trans h.fieldBare
  have recordType : Text.isBlank
      (spelling.beforeType ++ spelling.recordType ++ spelling.afterType) = false := by
    rw [← Bool.not_eq_true, ← Text.trim_eq_empty_iff, typeTrim]
    exact h.typeNonempty
  have field : Text.isBlank
      (spelling.beforeField ++ spelling.field ++ spelling.afterField) = false := by
    rw [← Bool.not_eq_true, ← Text.trim_eq_empty_iff, fieldTrim]
    exact h.fieldNonempty
  exact ⟨_, parse_append h.first recordType field, typeTrim.symm, fieldTrim.symm⟩

/-- A text is a proper spelling in one way at most. -/
theorem Proper.eq {spelling other : Spelling} (h : spelling.Proper) (h' : other.Proper)
    (same : spelling.text = other.text) : spelling = other := by
  have split := splitAtEquals?_append h.first
    (spelling.beforeField ++ spelling.field ++ spelling.afterField)
  have split' := splitAtEquals?_append h'.first
    (other.beforeField ++ other.field ++ other.afterField)
  change splitAtEquals? spelling.text = _ at split
  change splitAtEquals? other.text = _ at split'
  rw [same, split', Option.some.injEq, Prod.mk.injEq] at split
  obtain ⟨before, after⟩ := split
  obtain ⟨beforeType, recordType, afterType⟩ := Text.pad_inj h'.beforeType h'.afterType h.beforeType
    h.afterType h'.typeBare h.typeBare h'.typeNonempty before
  obtain ⟨beforeField, field, afterField⟩ := Text.pad_inj h'.beforeField h'.afterField h.beforeField
    h.afterField h'.fieldBare h.fieldBare h'.fieldNonempty after
  cases spelling
  cases other
  simp_all

theorem exists_of_parse {text : String} {binding : Binding} (h : parse text = .ok binding) :
    ∃ spelling : Spelling, spelling.Proper ∧ spelling.text = text ∧ spelling.Spells binding := by
  obtain ⟨before, after, first, rfl, recordType, field, typeText, fieldText⟩ :=
    Binding.exists_of_parse h
  obtain ⟨beforeType, afterType, typeSpace, typeSpace', typeWhole⟩ := Text.exists_trim_pad before
  obtain ⟨beforeField, afterField, fieldSpace, fieldSpace', fieldWhole⟩ :=
    Text.exists_trim_pad after
  have noEquals : '=' ∉ (Text.trim before).toList := by
    intro member
    rw [typeWhole] at first
    simp only [String.toList_append, List.mem_append, not_or] at first
    exact first.1.2 member
  refine ⟨⟨beforeType, Text.trim before, afterType, beforeField, Text.trim after, afterField⟩,
    ⟨typeSpace, typeSpace', fieldSpace, fieldSpace', Text.trim_trim before,
      Text.trim_ne_empty recordType, noEquals, Text.trim_trim after, Text.trim_ne_empty field⟩, ?_,
    typeText.symm, fieldText.symm⟩
  rw [text, ← typeWhole, ← fieldWhole]

end Spelling

/-- What is read as a binding is what is spelled as one, in one way and no other. Whatever else is
read is refused for its form. -/
theorem parse_iff_spelled (text : String) :
    (∀ binding, parse text = .ok binding ↔
      ∃ spelling : Spelling, spelling.Proper ∧ spelling.text = text ∧ spelling.Spells binding) ∧
    (∀ binding, parse text = .ok binding →
      ∃! spelling : Spelling, spelling.Proper ∧ spelling.text = text) ∧
    ∀ fault, parse text = .error fault → ∃ violation, fault = .invalid violation := by
  refine ⟨?_, ?_, fun fault failed => exists_invalid_of_parse failed⟩
  · intro binding
    constructor
    · exact Spelling.exists_of_parse
    · rintro ⟨spelling, proper, rfl, spells⟩
      obtain ⟨found, read, spells'⟩ := proper.exists_parse
      rw [read, spells'.eq spells]
  · intro binding read
    obtain ⟨spelling, proper, rfl, -⟩ := Spelling.exists_of_parse read
    exact ⟨spelling, ⟨proper, rfl⟩, fun other ⟨proper', same⟩ => proper'.eq proper same⟩

def padded : Spelling :=
  ⟨"\u3000", "Approved Loan", "\t", "\u00a0", "loan_id = x", "\n"⟩

theorem parse_padded :
    padded.Proper ∧ padded.text = "\u3000Approved Loan\t=\u00a0loan_id = x\n" ∧
      ∃ binding : Binding, parse padded.text = .ok binding ∧
        binding.recordType.text = "Approved Loan" ∧ binding.field = "loan_id = x" ∧
        ∃! spelling : Spelling, spelling.Proper ∧ spelling.text = padded.text := by
  have proper : padded.Proper := by
    constructor <;> decide
  have recordType : Text.isBlank "Approved Loan" = false := by decide
  obtain ⟨spelled, unique, -⟩ := parse_iff_spelled padded.text
  have read := (spelled ⟨⟨"Approved Loan", recordType⟩, "loan_id = x"⟩).mpr
    ⟨padded, proper, rfl, rfl, rfl⟩
  exact ⟨proper, by decide, _, read, rfl, rfl, unique _ read⟩

end NaturalKey.Binding
