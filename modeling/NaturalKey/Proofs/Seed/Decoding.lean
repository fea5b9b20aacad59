import NaturalKey.Proofs.Json.Nesting
import NaturalKey.Proofs.Outcome
import NaturalKey.Proofs.Tag
import NaturalKey.Seed

/-!
What a row comes to by its texts: a record, or the first thing that is wrong with it. The key is
looked at first, then the attributes, the type and the id; a tenant can always be found.
-/

set_option autoImplicit false

namespace NaturalKey.Seed

/-! ### Nesting

The attributes of a row are a document of their own, so they may be nested as deeply as any
document.
-/

theorem Row.depth_attributesObject_le {row : Row} {object : Json.Object}
    (h : row.attributesObject = .ok object) : object.toJson.depth ≤ Json.depthLimit := by
  simp only [attributesObject] at h
  split at h
  · cases h
    exact Nat.le_of_ble_eq_true rfl
  · split at h
    · cases h
    · rename_i value read
      split at h
      · rename_i found
        cases h
        rw [Json.Value.toJson_of_object? found]
        exact Json.depth_parse_le read
      · cases h

theorem Row.depth_record_le {row : Row} {record : Record} (h : row.record = .ok record) :
    record.attributes.toJson.depth ≤ Json.depthLimit := by
  simp only [Row.record] at h
  obtain ⟨tenant, -, h⟩ := bind_eq_ok.mp h
  split at h
  · cases h
  · obtain ⟨attributes, found, h⟩ := bind_eq_ok.mp h
    obtain ⟨recordType, -, h⟩ := bind_eq_ok.mp h
    obtain ⟨id, -, h⟩ := bind_eq_ok.mp h
    cases h
    exact Row.depth_attributesObject_le found

/-- The attributes of records from a seed file nest as deeply as those of any document. -/
theorem depth_records_le {text : List UInt8} {record : Record}
    (h : .ok record ∈ Seed.records text) :
    record.attributes.toJson.depth ≤ Json.depthLimit := by
  obtain ⟨row, -, read⟩ := List.mem_map.mp h
  simp only [recordOfRow] at read
  split at read
  · cases read
  · exact Row.depth_record_le read

/-! ### Outcomes -/

/-- What the text of attributes comes to. An empty one stands for none. -/
inductive GivesAttributes (text : String) : Except Fault Json.Object → Prop
  | empty : text = "" → GivesAttributes text (.ok .empty)
  | malformed {error : Json.Error} :
      text ≠ "" → Json.parse (Utf8.encode text) = .error error →
      GivesAttributes text (.error (.document (.malformed error)))
  | notAnObject {value : Json.Value} :
      text ≠ "" → Json.parse (Utf8.encode text) = .ok value →
      (∀ object : Json.Object, value ≠ object.toValue) →
      GivesAttributes text (.error (.invalid (.attributesNotObject value.json)))
  | object {object : Json.Object} :
      text ≠ "" → Json.parse (Utf8.encode text) = .ok object.toValue →
      GivesAttributes text (.ok object)

/-- What a row comes to. The checks stand in the order in which they are made. -/
inductive Decodes (row : Row) : Except Fault Record → Prop
  | noKey : row.key = "" → Decodes row (.error (.invalid .emptyKey))
  | refusedAttributes {fault : Fault} :
      row.key ≠ "" → GivesAttributes row.attributes (.error fault) → Decodes row (.error fault)
  | noType {attributes : Json.Object} :
      row.key ≠ "" → GivesAttributes row.attributes (.ok attributes) → row.recordType = "" →
      Decodes row (.error (.invalid .blankRecordType))
  | noId {attributes : Json.Object} :
      row.key ≠ "" → GivesAttributes row.attributes (.ok attributes) → row.recordType ≠ "" →
      row.id = "" → Decodes row (.error (.invalidIdentifier ""))
  | record {record : Record} :
      row.key ≠ "" → GivesAttributes row.attributes (.ok record.attributes) →
      record.recordType.text = row.recordType → record.id.text = row.id →
      record.keyField = row.key →
      record.tenant.text = (if row.tenant = "" then "default" else row.tenant) →
      Decodes row (.ok record)

/-- The texts of a row that become tags are blank only if they are empty. -/
structure Row.Trimmed (row : Row) : Prop where
  tenant : Text.isBlank row.tenant = true → row.tenant = ""
  recordType : Text.isBlank row.recordType = true → row.recordType = ""
  id : Text.isBlank row.id = true → row.id = ""

/-! ### Attributes -/

theorem GivesAttributes.eq {row : Row} {outcome : Except Fault Json.Object}
    (h : GivesAttributes row.attributes outcome) : row.attributesObject = outcome := by
  cases h with
  | empty nothing =>
    rw [Row.attributesObject, if_pos (String.isEmpty_iff.mpr nothing)]
  | malformed nonempty parsed =>
    rw [Row.attributesObject, if_neg (mt String.isEmpty_iff.mp nonempty), parsed]
  | @notAnObject value nonempty parsed differs =>
    have other : value.object? = none := by
      apply Option.eq_none_iff_forall_ne_some.mpr
      intro object found
      exact differs object (Json.Value.object?_eq_some_iff.mp found)
    rw [Row.attributesObject, if_neg (mt String.isEmpty_iff.mp nonempty), parsed]
    simp only [other]
  | object nonempty parsed =>
    rw [Row.attributesObject, if_neg (mt String.isEmpty_iff.mp nonempty), parsed]
    rfl

theorem exists_givesAttributes (text : String) : ∃ outcome, GivesAttributes text outcome := by
  by_cases empty : text = ""
  · exact ⟨_, .empty empty⟩
  · cases parsed : Json.parse (Utf8.encode text) with
    | error error => exact ⟨_, .malformed empty parsed⟩
    | ok value =>
      by_cases isObject : ∃ object : Json.Object, value = object.toValue
      · obtain ⟨object, rfl⟩ := isObject
        exact ⟨_, .object empty parsed⟩
      · exact ⟨_, .notAnObject empty parsed (not_exists.mp isObject)⟩

/-! ### Rows -/

theorem exists_tag {kind : Tag.Kind} {text : String}
    (trimmed : Text.isBlank text = true → text = "") (nonempty : text ≠ "") :
    ∃ tag : Tag kind, Tag.ofText text = .ok tag ∧ tag.text = text := by
  have nonBlank : Text.isBlank text = false := by
    rw [← Bool.not_eq_true]
    exact mt trimmed nonempty
  exact ⟨⟨text, nonBlank⟩, Tag.ofText_of_not_isBlank nonBlank, rfl⟩

theorem Row.Trimmed.exists_tenantTag {row : Row} (trimmed : row.Trimmed) :
    ∃ tenant : Tenant, row.tenantTag = .ok tenant ∧
      tenant.text = if row.tenant = "" then "default" else row.tenant := by
  by_cases empty : row.tenant = ""
  · refine ⟨Tenant.default, ?_, ?_⟩
    · rw [tenantTag, if_pos (String.isEmpty_iff.mpr empty)]
    · rw [if_pos empty]
      rfl
  · obtain ⟨tenant, made, text⟩ := exists_tag trimmed.tenant empty
    refine ⟨tenant, ?_, ?_⟩
    · rw [tenantTag, if_neg (mt String.isEmpty_iff.mp empty), made]
    · rw [if_neg empty, text]

theorem Row.record_of_tenantTag {row : Row} {tenant : Tenant} (made : row.tenantTag = .ok tenant)
    (key : row.key ≠ "") :
    row.record = (do
      let attributes ← row.attributesObject
      let recordType ← Tag.ofText row.recordType
      let id ← Tag.ofText row.id
      .ok ⟨tenant, recordType, row.key, id, attributes⟩) := by
  have keyed : row.key.isEmpty = false := by
    rw [← Bool.not_eq_true]
    exact mt String.isEmpty_iff.mp key
  simp only [record, made, keyed]
  rfl

theorem Decodes.record_eq {row : Row} {outcome : Except Fault Record} (trimmed : row.Trimmed)
    (h : Decodes row outcome) : row.record = outcome := by
  obtain ⟨tenant, made, tenantText⟩ := trimmed.exists_tenantTag
  cases h with
  | noKey key =>
    rw [Row.record, made, key]
    rfl
  | refusedAttributes key attributes =>
    rw [Row.record_of_tenantTag made key, attributes.eq]
    rfl
  | noType key attributes recordType =>
    rw [Row.record_of_tenantTag made key, attributes.eq, recordType]
    rfl
  | noId key attributes recordType id =>
    obtain ⟨typeTag, typed, -⟩ := exists_tag trimmed.recordType recordType
    rw [Row.record_of_tenantTag made key, attributes.eq, typed, id]
    rfl
  | record key attributes recordType id keyField tenantIs =>
    rw [Row.record_of_tenantTag made key, attributes.eq, ← recordType, ← id, ← keyField,
      Tag.ofText_text, Tag.ofText_text, Tag.ext_text (tenantText.trans tenantIs.symm)]
    rfl

theorem exists_decodes {row : Row} (trimmed : row.Trimmed) : ∃ outcome, Decodes row outcome := by
  by_cases key : row.key = ""
  · exact ⟨_, .noKey key⟩
  obtain ⟨given, attributes⟩ := exists_givesAttributes row.attributes
  cases given with
  | error fault => exact ⟨_, .refusedAttributes key attributes⟩
  | ok object =>
    by_cases recordType : row.recordType = ""
    · exact ⟨_, .noType key attributes recordType⟩
    by_cases id : row.id = ""
    · exact ⟨_, .noId key attributes recordType id⟩
    obtain ⟨typeTag, -, typeText⟩ := exists_tag trimmed.recordType recordType
    obtain ⟨idTag, -, idText⟩ := exists_tag trimmed.id id
    obtain ⟨tenant, -, tenantText⟩ := trimmed.exists_tenantTag
    exact ⟨.ok ⟨tenant, typeTag, row.key, idTag, object⟩,
      .record key attributes typeText idText rfl tenantText⟩

theorem record_eq_iff_decodes {row : Row} (trimmed : row.Trimmed)
    {outcome : Except Fault Record} : row.record = outcome ↔ Decodes row outcome := by
  constructor
  · intro made
    obtain ⟨other, decodes⟩ := exists_decodes trimmed
    rw [← made, decodes.record_eq trimmed]
    exact decodes
  · exact Decodes.record_eq trimmed

end NaturalKey.Seed
