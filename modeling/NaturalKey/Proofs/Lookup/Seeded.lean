import NaturalKey.Proofs.Lookup.Memory
import NaturalKey.Proofs.Seed.Loading
import NaturalKey.Proofs.Seed.Records

/-!
Lookups among the rows of a seed file. The reader leaves no white space around a type, and a lookup
takes none away that is not there; so every row that is a record can be found again, unless it is
not the only one that has its id.
-/

set_option autoImplicit false

namespace NaturalKey

theorem Record.hasKey_keyField (record : Record) : record.HasKey record.keyField record.id.text :=
  .inl ⟨rfl, rfl⟩

theorem Record.mem_having_iff {tenant : Tenant} {recordType : RecordType} {filter : Filter}
    {records : List Record} {record : Record} :
    record ∈ having tenant recordType filter records ↔
      record ∈ records ∧ record.tenant = tenant ∧ record.recordType = recordType ∧
        record.HasKey filter.field filter.value := by
  rw [having, List.mem_filter, decide_eq_true_eq]

namespace Lookup

theorem outcome_of_mem {recordType : RecordType} {filter : Filter} {records : List Record}
    {record : Record} {outcome : Except Fault Record} (member : record ∈ records)
    (h : Outcome recordType filter records outcome) :
    records = [record] ∧ outcome = .ok record ∨
      2 ≤ records.length ∧
        outcome = .error (.multipleMatches recordType filter records.length) := by
  cases h with
  | none => simp at member
  | one found =>
    obtain rfl := List.mem_singleton.mp member
    exact .inl ⟨rfl, rfl⟩
  | several many => exact .inr ⟨many, rfl⟩

/-- No row of a seed file is lost. Where its key field is the one of its type, a row is found by its
id if it is the only one of its table with this id there, and otherwise all such rows are counted.
-/
theorem findById_seeded {text : List UInt8} {record : Record} {registry : Registry}
    (seeded : .ok record ∈ Seed.records text)
    (known : registry.field? record.recordType = some record.keyField) :
    let loading := Seed.Loading.ofRows MemoryStore.empty (Seed.records text)
    let lookup := (new loading.store registry).forTenant record.tenant
    let result := (lookup.findById record.recordType.text record.id.text).result
    let filter : Filter := ⟨record.keyField, record.id.text⟩
    let matching := Record.having record.tenant record.recordType filter
      (Seed.readable (Seed.records text))
    record ∈ matching ∧
      (matching = [record] → result = .ok record) ∧
      (matching ≠ [record] → 2 ≤ matching.length ∧
        result = .error (.multipleMatches record.recordType filter matching.length)) := by
  intro loading lookup result filter matching
  have member : record ∈ matching :=
    Record.mem_having_iff.mpr
      ⟨Seed.mem_readable_iff.mpr seeded, rfl, rfl, record.hasKey_keyField⟩
  have same : record.recordType.text = Text.trim record.recordType.text :=
    (Seed.trim_recordType seeded).symm
  have resolves : Resolves (Seed.readable (Seed.records text)) registry record.tenant
      record.recordType.text record.id.text (only record.recordType filter matching) :=
    .known record.id.nonBlank same known (outcome_iff.mpr rfl)
  have counted : result = only record.recordType filter matching := by
    rw [← resolves.result_eq, ← Seed.Loading.store_ofRows]
    rfl
  refine ⟨member, ?_⟩
  rcases outcome_of_mem member (outcome_iff.mpr counted.symm) with ⟨alone, found⟩ | ⟨many, several⟩
  · exact ⟨fun _ => found, fun others => absurd alone others⟩
  · constructor
    · intro alone
      simp [alone] at many
    · intro _
      exact ⟨many, several⟩

/-- A table of users, with white space before a type and one row that has another key field. -/
def usersText : List UInt8 :=
  Utf8.encode ("type,key,id,attributes\n\u00a0User,user_id,u-1,\n" ++
    "User,email,u-2,\x22\x7b\x22\x22user_id\x22\x22: \x22\x22u-1\x22\x22\x7d\x22\nUser,user_id,u-3,\n")

def usersWith (id : String) : List Record :=
  Record.having Tenant.default ⟨"User", isBlank_user⟩ ⟨"user_id", id⟩
    (Seed.readable (Seed.records usersText))

/-- A row with its key in the field that is the key field of users by default. -/
def IsUser (id : String) (record : Record) : Prop :=
  record.tenant = Tenant.default ∧ record.recordType = ⟨"User", isBlank_user⟩ ∧
    record.keyField = "user_id" ∧ record.id.text = id

instance (id : String) (record : Record) : Decidable (IsUser id record) :=
  inferInstanceAs (Decidable (_ ∧ _ ∧ _ ∧ _))

/-- The user with an id of its own is found. The other one is not the only one with its id, since in
a row with another key field it is looked for among the attributes. -/
theorem findById_seeded_users :
    let rows := Seed.records usersText
    let loading := Seed.Loading.ofRows MemoryStore.empty rows
    let lookup := (new loading.store Registry.default).forTenant Tenant.default
    (∃ user, .ok user ∈ rows ∧ Registry.default.field? user.recordType = some user.keyField ∧
      (lookup.findById "User" "u-3").result = .ok user) ∧
    ∃ user, .ok user ∈ rows ∧ Registry.default.field? user.recordType = some user.keyField ∧
      (lookup.findById "User" "u-1").result =
        .error (.multipleMatches ⟨"User", isBlank_user⟩ ⟨"user_id", "u-1"⟩ 2) := by
  intro rows loading lookup
  have known : Registry.default.field? ⟨"User", isBlank_user⟩ = some "user_id" := by decide
  constructor
  · obtain ⟨user, member, tenant, recordType, keyField, id⟩ :
        ∃ user ∈ Seed.readable (Seed.records usersText), IsUser "u-3" user := by decide +kernel
    have one : (usersWith "u-3").length = 1 := by decide +kernel
    have seeded : .ok user ∈ rows := Seed.mem_readable_iff.mp member
    rw [← recordType, ← keyField] at known
    obtain ⟨-, alone, others⟩ := findById_seeded seeded known
    simp only [tenant, recordType, keyField, id] at alone others
    refine ⟨user, seeded, known, alone ?_⟩
    by_contra more
    have two : 2 ≤ (usersWith "u-3").length := (others more).1
    omega
  · obtain ⟨user, member, tenant, recordType, keyField, id⟩ :
        ∃ user ∈ Seed.readable (Seed.records usersText), IsUser "u-1" user := by decide +kernel
    have two : (usersWith "u-1").length = 2 := by decide +kernel
    have seeded : .ok user ∈ rows := Seed.mem_readable_iff.mp member
    rw [← recordType, ← keyField] at known
    obtain ⟨-, -, others⟩ := findById_seeded seeded known
    simp only [tenant, recordType, keyField, id] at others
    have more : usersWith "u-1" ≠ [user] := by
      intro alone
      simp [alone] at two
    refine ⟨user, seeded, known, ?_⟩
    rw [(others more).2]
    exact congrArg (fun count => Except.error (Fault.multipleMatches _ _ count)) two

end Lookup

end NaturalKey
