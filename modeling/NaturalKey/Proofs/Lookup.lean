import NaturalKey.Lookup
import NaturalKey.Proofs.SortedMap
import NaturalKey.Proofs.Store.Run
import NaturalKey.Proofs.Tag
import NaturalKey.Proofs.Text.Blank

/-!
What lookups come to. Everything that is asked for is decided by the records that have the value in
the key field of the type, and of those it only matters how many there are and which one it is if
there is one: neither their order nor the store that holds them counts.
-/

set_option autoImplicit false

namespace NaturalKey

/-- The record has this value in a field: as its id if the field is its key, else among its
attributes. -/
def Record.HasKey (field value : String) (record : Record) : Prop :=
  record.keyField = field ∧ record.id.text = value ∨
    record.keyField ≠ field ∧ (field, .string value) ∈ record.attributes.members

theorem Record.answers_iff {record : Record} {filter : Filter} :
    record.answers filter = true ↔ record.HasKey filter.field filter.value := by
  rw [answers, HasKey]
  by_cases isKey : filter.field = record.keyField
  · simp [isKey]
  · have found :
        getEntry? filter.field record.attributes.members = some (.string filter.value) ↔ _ :=
      getEntry?_eq_some_iff record.attributes.canonical.1
    rw [if_neg isKey, ← found, Json.Object.get?]
    have differ : ¬record.keyField = filter.field := fun equal => isKey equal.symm
    simp only [differ, false_and, not_false_eq_true, true_and, false_or, ne_eq]
    split
    · simp [*]
    · simp_all

instance (field value : String) (record : Record) : Decidable (record.HasKey field value) :=
  decidable_of_iff (record.answers ⟨field, value⟩ = true) Record.answers_iff

theorem Traced.lift_ok_bind {α β : Type} (value : α) (next : α → Traced β) :
    (liftM (Except.ok value : Except Fault α) : Traced α) >>= next = next value := rfl

namespace Lookup

/-- What comes of the records that have what is asked for. -/
inductive Outcome (recordType : RecordType) (filter : Filter) :
    List Record → Except Fault Record → Prop
  | none : Outcome recordType filter [] (.error (.notFound recordType filter))
  | one (record : Record) : Outcome recordType filter [record] (.ok record)
  | several {records : List Record} : 2 ≤ records.length →
      Outcome recordType filter records
        (.error (.multipleMatches recordType filter records.length))

theorem outcome_iff {recordType : RecordType} {filter : Filter} {records : List Record}
    {outcome : Except Fault Record} :
    Outcome recordType filter records outcome ↔ only recordType filter records = outcome := by
  constructor
  · intro h
    cases h with
    | none => rfl
    | one record => rfl
    | several many =>
      match records, many with
      | _ :: _ :: _, _ => rfl
  · rintro rfl
    match records with
    | [] => exact .none
    | [record] => exact .one record
    | first :: second :: rest =>
      apply Outcome.several
      simp

theorem outcome_ok_iff {recordType : RecordType} {filter : Filter} {records : List Record}
    {record : Record} : Outcome recordType filter records (.ok record) ↔ records = [record] := by
  constructor
  · intro h
    cases h with
    | one => rfl
  · rintro rfl
    exact .one record

/-- The order of the records does not matter. -/
theorem only_of_perm (recordType : RecordType) (filter : Filter) {records others : List Record}
    (h : records.Perm others) : only recordType filter records = only recordType filter others := by
  match records with
  | [] => rw [List.nil_perm.mp h]
  | [record] => rw [List.singleton_perm.mp h]
  | first :: second :: rest =>
    have same := h.length_eq
    match others with
    | [] => simp at same
    | [_] => simp at same
    | _ :: _ :: _ => simp only [only, same]

theorem foldl_forTenant {σ : Type} (lookup : Lookup σ) (tenants : List Tenant) :
    tenants.foldl forTenant lookup =
      { lookup with tenant := tenants.getLast?.getD lookup.tenant } := by
  induction tenants generalizing lookup with
  | nil => rfl
  | cons tenant tenants ih =>
    rw [List.foldl_cons, ih, List.getLast?_cons]
    rfl

section Stores

variable {σ τ : Type} [Store σ] [Store τ]

theorem findOne_of_query (lookup : Lookup σ) {recordType : RecordType} {filter : Filter}
    {records : List Record}
    (h : Store.query lookup.store lookup.tenant recordType filter = .ok records) :
    lookup.findOne recordType filter =
      ⟨[.lookedUp lookup.tenant recordType filter records.length],
        only recordType filter records⟩ := by
  rw [findOne, h]
  rfl

/-! ### Identifiers -/

theorem findById_of_blank_id (lookup : Lookup σ) (typeText : String) {idText : String}
    (h : Text.isBlank idText = true) :
    (lookup.findById typeText idText).result = .error (.invalidIdentifier idText) := by
  rw [findById, Tag.ofText_of_isBlank h]
  rfl

theorem findById_of_blank_type (lookup : Lookup σ) {typeText idText : String}
    (id : Text.isBlank idText = false) (h : Text.trim typeText = "") :
    (lookup.findById typeText idText).result = .error (.invalid .blankRecordType) := by
  rw [findById, Tag.ofText_of_not_isBlank id, h]
  rfl

theorem findById_of_unknown (lookup : Lookup σ) {typeText idText : String}
    (id : Text.isBlank idText = false) {recordType : RecordType}
    (h : recordType.text = Text.trim typeText)
    (unknown : lookup.registry.field? recordType = none) :
    (lookup.findById typeText idText).result = .error (.unknownType recordType) := by
  have noField : lookup.keyField recordType = .error (.unknownType recordType) := by
    rw [keyField, unknown]
  rw [findById, Tag.ofText_of_not_isBlank id, ← h, Tag.ofText_text, Traced.lift_ok_bind,
    Traced.lift_ok_bind, noField]
  rfl

theorem findById_of_field (lookup : Lookup σ) {typeText idText field : String}
    (id : Text.isBlank idText = false) {recordType : RecordType}
    (h : recordType.text = Text.trim typeText)
    (known : lookup.registry.field? recordType = some field) :
    lookup.findById typeText idText = lookup.findOne recordType ⟨field, idText⟩ := by
  have found : lookup.keyField recordType = .ok field := by
    rw [keyField, known]
  rw [findById, Tag.ofText_of_not_isBlank id, ← h, Tag.ofText_text, Traced.lift_ok_bind,
    Traced.lift_ok_bind, found, Traced.lift_ok_bind]

/-- White space around the type does not count. -/
theorem findById_pad (lookup : Lookup σ) {before after : String}
    (h : Text.isBlank before = true) (h' : Text.isBlank after = true) (typeText idText : String) :
    lookup.findById (before ++ typeText ++ after) idText = lookup.findById typeText idText := by
  simp only [findById, Text.trim_pad h h']

theorem findOne_eq_of_perm (a : Lookup σ) (b : Lookup τ) (tenant : a.tenant = b.tenant)
    {recordType : RecordType} {filter : Filter} {records others : List Record}
    (ha : Store.query a.store a.tenant recordType filter = .ok records)
    (hb : Store.query b.store b.tenant recordType filter = .ok others)
    (perm : records.Perm others) : a.findOne recordType filter = b.findOne recordType filter := by
  rw [findOne_of_query a ha, findOne_of_query b hb, tenant, perm.length_eq,
    only_of_perm recordType filter perm]

/-- A lookup by id asks for nothing but one field of one type. -/
theorem findById_eq_of_findOne {a : Lookup σ} {b : Lookup τ} (registry : a.registry = b.registry)
    (h : ∀ recordType filter, a.findOne recordType filter = b.findOne recordType filter)
    (typeText idText : String) : a.findById typeText idText = b.findById typeText idText := by
  simp only [findById, keyField, registry, h]

end Stores

end Lookup

end NaturalKey
