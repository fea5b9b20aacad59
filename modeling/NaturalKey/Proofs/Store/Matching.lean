import NaturalKey.Proofs.Lookup.Memory

/-!
Questions about records in memory. A value may stand in a field of a record in two ways, as its id
and as an attribute, and nothing keeps an attribute from having the name of the key field. Of such a
record only the id counts, so an answer may leave records out that carry the value that is asked
for.
-/

set_option autoImplicit false

namespace NaturalKey

namespace Record

/-- An attribute of this name is a string with this value. -/
def HasText (field value : String) (record : Record) : Prop :=
  (field, .string value) ∈ record.attributes.members

/-- The value stands in the field: as the id, if this is the key field, or as an attribute. -/
def Carries (field value : String) (record : Record) : Prop :=
  record.keyField = field ∧ record.id.text = value ∨ record.HasText field value

/-- The value stands in an attribute that has the name of the key field, and the id is another. -/
def Hides (field value : String) (record : Record) : Prop :=
  record.keyField = field ∧ record.id.text ≠ value ∧ record.HasText field value

variable {field value : String} {record : Record}

theorem hasText_iff_get? :
    record.HasText field value ↔ record.attributes.get? field = some (.string value) :=
  (getEntry?_eq_some_iff record.attributes.canonical.1).symm

/-- A record that carries the value has it in its key, unless it hides it. -/
theorem hasKey_iff_carries :
    record.HasKey field value ↔ record.Carries field value ∧ ¬record.Hides field value := by
  rw [HasKey, Carries, Hides, HasText]
  by_cases isKey : record.keyField = field
  · by_cases isId : record.id.text = value
    · simp [isKey, isId]
    · simp [isKey, isId]
  · simp [isKey]

theorem Hides.carries (h : record.Hides field value) : record.Carries field value :=
  .inr h.2.2

instance (field value : String) (record : Record) : Decidable (record.HasText field value) :=
  match found : record.attributes.get? field with
  | some (.string text) =>
    decidable_of_iff (text = value) (by rw [hasText_iff_get?, found]; simp)
  | none | some .null | some (.bool _) | some (.number _) | some (.array _) | some (.object _) =>
    .isFalse (by rw [hasText_iff_get?, found]; simp)

instance (field value : String) (record : Record) : Decidable (record.Carries field value) :=
  inferInstanceAs (Decidable (_ ∧ _ ∨ _))

instance (field value : String) (record : Record) : Decidable (record.Hides field value) :=
  inferInstanceAs (Decidable (_ ∧ _ ∧ _))

/-- The records of a table that carry a value in a field, as often as they are there. -/
def carrying (tenant : Tenant) (recordType : RecordType) (filter : Filter)
    (records : List Record) : List Record :=
  records.filter fun record => decide (record.tenant = tenant ∧ record.recordType = recordType ∧
    record.Carries filter.field filter.value)

theorem having_eq_filter_carrying (tenant : Tenant) (recordType : RecordType) (filter : Filter)
    (records : List Record) :
    having tenant recordType filter records =
      (carrying tenant recordType filter records).filter fun record =>
        decide ¬record.Hides filter.field filter.value := by
  rw [having, carrying, List.filter_filter]
  apply List.filter_congr
  intro record _
  rw [Bool.eq_iff_iff, Bool.and_eq_true]
  simp only [decide_eq_true_eq, hasKey_iff_carries]
  tauto

end Record

namespace MemoryStore

/-- What a question about a table in memory is answered with, after any run: the records of the
table that carry the value, in the order in which they were added and as often, without those that
hide it. So it is all that carry the value if and only if no record of the table hides it. -/
theorem query_eq_carrying (records : List Record) (tenant : Tenant) (recordType : RecordType)
    (filter : Filter) :
    let answer := Store.query (Store.attemptAll empty records) tenant recordType filter
    let carrying := Record.carrying tenant recordType filter records
    answer = .ok (carrying.filter fun record =>
        decide ¬record.Hides filter.field filter.value) ∧
      (answer = .ok carrying ↔
        ∀ record ∈ records, record.tenant = tenant → record.recordType = recordType →
          ¬record.Hides filter.field filter.value) := by
  intro answer carrying
  have answered : answer = .ok (carrying.filter fun record =>
      decide ¬record.Hides filter.field filter.value) := by
    rw [← Record.having_eq_filter_carrying, Record.having_eq_filter]
    exact query_attemptAll_empty records tenant recordType filter
  refine ⟨answered, ?_⟩
  rw [answered, Except.ok.injEq, List.filter_eq_self]
  simp only [decide_eq_true_eq]
  constructor
  · intro shown record member sameTenant sameType hides
    have among : record ∈ carrying :=
      List.mem_filter.mpr ⟨member, decide_eq_true ⟨sameTenant, sameType, hides.carries⟩⟩
    exact shown record among hides
  · intro shown record among
    obtain ⟨member, carries⟩ := List.mem_filter.mp among
    obtain ⟨sameTenant, sameType, -⟩ := of_decide_eq_true carries
    exact shown record member sameTenant sameType

/-- A user whose former id is still among the attributes, under the name of the key field. -/
def renamedUser (id : RecordId) (former : String) : Record :=
  (Record.user id).withAttribute "user_id" (.string former)

/-- The user carries the former id but is not among the answers to a question about it. -/
theorem query_renamedUser :
    let user := renamedUser ⟨"u-1", by decide⟩ "u-2"
    user.tenant = Tenant.default ∧ user.recordType = ⟨"User", isBlank_user⟩ ∧
      user.Carries "user_id" "u-2" ∧
      Store.query (Store.attemptAll empty [user]) Tenant.default ⟨"User", isBlank_user⟩
        ⟨"user_id", "u-2"⟩ = .ok [] := by
  intro user
  rw [query_attemptAll_empty]
  refine ⟨rfl, rfl, .inr ?_, rfl⟩
  exact List.mem_singleton.mpr rfl

end MemoryStore

end NaturalKey
