import NaturalKey.Proofs.Outcome
import NaturalKey.Proofs.Store.Rows

/-!
Tables of a keyed store after any run. A table can be read if and only if none of its rows is nested
too deep, and then it holds its rows in ascending order of their ids.
-/

set_option autoImplicit false

namespace NaturalKey

namespace Record

theorem shallow_user (id : RecordId) : (user id).Shallow := Nat.le_of_ble_eq_true rfl

theorem integral_user (id : RecordId) : (user id).Integral := trivial

theorem storable_user {id : RecordId} (h : KeyedStore.separator ∉ Utf8.encode id.text) :
    KeyedStore.Storable (user id) :=
  have tenant : KeyedStore.separator ∉ Utf8.encode Tenant.default.text := by decide
  have recordType : KeyedStore.separator ∉ Utf8.encode "User" := by decide
  ⟨tenant, recordType, h⟩

end Record

namespace KeyedStore

variable {tenant : Tenant} {recordType : RecordType}

theorem query_of_all {store : KeyedStore} {records : List Record}
    (h : all store tenant recordType = .ok records) (filter : Filter) :
    query store tenant recordType filter = .ok (records.filter (·.answers filter)) := by
  rw [query, h]
  rfl

theorem query_of_all_error {store : KeyedStore} {fault : Fault}
    (h : all store tenant recordType = .error fault) (filter : Filter) :
    query store tenant recordType filter = .error fault := by
  rw [query, h]
  rfl

theorem all_of_shallow {records : List Record}
    (h : ∀ row ∈ rows records tenant recordType, row.Shallow) :
    all (Store.attemptAll empty records) tenant recordType =
      .ok ((rows records tenant recordType).map Record.reread) := by
  rw [all_attemptAll_empty]
  exact mapM_ok_of_forall fun row member => Record.parse_text (h row member)

theorem all_of_integral {records : List Record}
    (shallow : ∀ row ∈ rows records tenant recordType, row.Shallow)
    (integral : ∀ row ∈ rows records tenant recordType, row.Integral) :
    all (Store.attemptAll empty records) tenant recordType =
      .ok (rows records tenant recordType) := by
  rw [all_attemptAll_empty]
  have read := mapM_ok_of_forall (g := id) fun row member =>
    Record.parse_text_of_integral (shallow row member) (integral row member)
  rwa [List.map_id] at read

/-- One row that is nested too deep makes its table unreadable. -/
theorem all_of_not_shallow {records : List Record} {row : Record}
    (member : row ∈ rows records tenant recordType) (deep : ¬row.Shallow) :
    ∃ position, all (Store.attemptAll empty records) tenant recordType =
      .error (.document (.malformed ⟨.tooDeep, position⟩)) := by
  rw [all_attemptAll_empty]
  have failures : ∀ row ∈ rows records tenant recordType, ∀ fault,
      Record.parse (Utf8.encode row.text) = .error fault →
        ∃ position, fault = .document (.malformed ⟨.tooDeep, position⟩) := by
    intro row _ fault failed
    by_cases shallow : row.Shallow
    · rw [Record.parse_text shallow] at failed
      cases failed
    · obtain ⟨position, failed'⟩ := Record.parse_text_of_not_shallow shallow
      rw [failed] at failed'
      exact ⟨position, Except.error.inj failed'⟩
  obtain ⟨position, failed⟩ := Record.parse_text_of_not_shallow deep
  obtain ⟨fault, failed, position, rfl⟩ :=
    mapM_error_of_mem failures ⟨row, member, _, failed⟩
  exact ⟨position, failed⟩

/-- What has been accepted can be asked for. After any run of records that can be read back, exactly
those are refused that have the separator in their tenant, type or id, without any effect, and each
table holds the last accepted record of each of its ids, in ascending order of the ids. -/
theorem tables_after_run {records : List Record} (shallow : ∀ r ∈ records, r.Shallow)
    (integral : ∀ r ∈ records, r.Integral) :
    (∀ r, (Storable r → ∃ next, insert (Store.attemptAll empty records) r = .ok next) ∧
      (¬Storable r →
        insert (Store.attemptAll empty records) r = .error (.invalid .reservedCharacter) ∧
          Store.attempt (Store.attemptAll empty records) r = Store.attemptAll empty records)) ∧
    ∀ tenant recordType, ∃ table,
      all (Store.attemptAll empty records) tenant recordType = .ok table ∧
      Ascending (table.map fun row => Utf8.encode row.id.text) ∧
      (∀ r, r ∈ table ↔
        Storable r ∧ (r.tenant = tenant ∧ r.recordType = recordType) ∧ LastOfKey records r) ∧
      ∀ filter, query (Store.attemptAll empty records) tenant recordType filter =
        .ok (table.filter (·.answers filter)) := by
  constructor
  · intro r
    constructor
    · intro storable
      exact ⟨_, insert_of_storable storable _⟩
    · intro reserved
      exact ⟨insert_of_not_storable reserved _, attempt_of_not_storable reserved _⟩
  · intro tenant recordType
    have among : ∀ row ∈ rows records tenant recordType, row ∈ records :=
      fun row member => (mem_rows_iff.mp member).2.2.mem
    have read : all (Store.attemptAll empty records) tenant recordType =
        .ok (rows records tenant recordType) :=
      all_of_integral (fun row member => shallow row (among row member))
        fun row member => integral row (among row member)
    exact ⟨_, read, ascending_rows records tenant recordType, fun _ => mem_rows_iff,
      query_of_all read⟩

/-- Both of two users are there after the run; one with the separator in its id is refused. -/
theorem tables_after_users :
    let users := [Record.user ⟨"u-2", by decide⟩, Record.user ⟨"u-1", by decide⟩]
    (∀ r ∈ users, r.Shallow) ∧ (∀ r ∈ users, r.Integral) ∧
      insert (Store.attemptAll empty users) (Record.user ⟨"u\x1f3", by decide⟩) =
        .error (.invalid .reservedCharacter) ∧
      ∃ table, all (Store.attemptAll empty users) Tenant.default ⟨"User", by decide⟩ = .ok table ∧
        ∀ r ∈ users, r ∈ table := by
  intro users
  have shallow : ∀ r ∈ users, r.Shallow :=
    List.forall_mem_cons.mpr
      ⟨Record.shallow_user _, List.forall_mem_singleton.mpr (Record.shallow_user _)⟩
  have integral : ∀ r ∈ users, r.Integral :=
    List.forall_mem_cons.mpr
      ⟨Record.integral_user _, List.forall_mem_singleton.mpr (Record.integral_user _)⟩
  obtain ⟨inserts, tables⟩ := tables_after_run shallow integral
  obtain ⟨table, found, -, members, -⟩ := tables Tenant.default ⟨"User", by decide⟩
  have distinct : DistinctKeys users := distinctKeys_users (by decide)
  have storable : ∀ r ∈ users, Storable r :=
    List.forall_mem_cons.mpr ⟨Record.storable_user (by decide),
      List.forall_mem_singleton.mpr (Record.storable_user (by decide))⟩
  have ours : ∀ r ∈ users, r.tenant = Tenant.default ∧ r.recordType = ⟨"User", isBlank_user⟩ :=
    List.forall_mem_cons.mpr ⟨⟨rfl, rfl⟩, List.forall_mem_singleton.mpr ⟨rfl, rfl⟩⟩
  refine ⟨shallow, integral, ((inserts _).2 (by decide)).1, table, found, ?_⟩
  intro r member
  apply (members r).mpr
  exact ⟨storable r member, ours r member, distinct.lastOfKey_iff.mpr member⟩

end KeyedStore

end NaturalKey
