import NaturalKey.Proofs.SortedMap
import NaturalKey.Store

/-!
Stores over whole runs: records are added one after another, and one that is refused changes
nothing.
-/

set_option autoImplicit false

namespace NaturalKey

/-- The same natural key: all records of a type are taken to have the same key field. -/
def Record.SameKey (r s : Record) : Prop :=
  r.tenant = s.tenant ∧ r.recordType = s.recordType ∧ r.id = s.id

theorem Record.SameKey.symm {r s : Record} (h : r.SameKey s) : s.SameKey r :=
  ⟨h.1.symm, h.2.1.symm, h.2.2.symm⟩

/-- The record is in the list, and none after it has the same key. -/
def LastOfKey (records : List Record) (r : Record) : Prop :=
  ∃ before after, records = before ++ r :: after ∧ ∀ s ∈ after, ¬r.SameKey s

theorem not_lastOfKey_nil (r : Record) : ¬LastOfKey [] r := by
  rintro ⟨before, after, equal, -⟩
  simp at equal

theorem lastOfKey_cons {s r : Record} {records : List Record} :
    LastOfKey (s :: records) r ↔
      LastOfKey records r ∨ s = r ∧ ∀ other ∈ records, ¬r.SameKey other := by
  constructor
  · rintro ⟨before, after, equal, last⟩
    cases before with
    | nil =>
      obtain ⟨rfl, rfl⟩ := List.cons.inj equal
      exact .inr ⟨rfl, last⟩
    | cons first before =>
      obtain ⟨rfl, rfl⟩ := List.cons.inj equal
      exact .inl ⟨before, after, rfl, last⟩
  · rintro (⟨before, after, rfl, last⟩ | ⟨rfl, last⟩)
    · exact ⟨s :: before, after, rfl, last⟩
    · exact ⟨[], records, rfl, last⟩

theorem LastOfKey.mem {records : List Record} {r : Record} (h : LastOfKey records r) :
    r ∈ records := by
  obtain ⟨before, after, rfl, -⟩ := h
  simp

/-- No two of the records have the same key. -/
def DistinctKeys (records : List Record) : Prop :=
  records.Pairwise fun r s => ¬r.SameKey s

theorem DistinctKeys.lastOfKey_iff {records : List Record} (h : DistinctKeys records)
    {r : Record} : LastOfKey records r ↔ r ∈ records := by
  constructor
  · exact LastOfKey.mem
  · intro member
    obtain ⟨before, after, rfl⟩ := List.append_of_mem member
    have later := (List.pairwise_append.mp h).2.1
    exact ⟨before, after, rfl, fun s among => List.rel_of_pairwise_cons later among⟩

theorem DistinctKeys.nodup {records : List Record} (h : DistinctKeys records) : records.Nodup := by
  apply List.Pairwise.imp _ h
  rintro r _ differ rfl
  exact differ ⟨rfl, rfl, rfl⟩

theorem DistinctKeys.perm {records others : List Record} (h : DistinctKeys records)
    (perm : records.Perm others) : DistinctKeys others :=
  (perm.pairwise_iff fun differ same => differ same.symm).mp h

def Record.inTable (tenant : Tenant) (recordType : RecordType) (record : Record) : Bool :=
  record.tenant == tenant && record.recordType == recordType

@[simp]
theorem Record.inTable_iff {tenant : Tenant} {recordType : RecordType} {record : Record} :
    record.inTable tenant recordType = true ↔
      record.tenant = tenant ∧ record.recordType = recordType := by
  simp [inTable]

theorem isBlank_user : Text.isBlank "User" = false := by decide

def Record.user (id : RecordId) : Record :=
  ⟨Tenant.default, ⟨"User", isBlank_user⟩, "user_id", id, .empty⟩

theorem distinctKeys_users {id other : RecordId} (h : id ≠ other) :
    DistinctKeys [Record.user id, Record.user other] := by
  apply List.pairwise_pair.mpr
  rintro ⟨-, -, same⟩
  exact h same

namespace Store

variable {σ : Type} [Store σ]

def attempt (store : σ) (record : Record) : σ :=
  match insert store record with
  | .ok next => next
  | .error _ => store

theorem attempt_of_insert_ok {store next : σ} {record : Record}
    (h : insert store record = .ok next) : attempt store record = next := by
  rw [attempt, h]

theorem attempt_of_insert_error {store : σ} {record : Record} {fault : Fault}
    (h : insert store record = .error fault) : attempt store record = store := by
  rw [attempt, h]

def attemptAll (store : σ) (records : List Record) : σ :=
  records.foldl attempt store

@[simp]
theorem attemptAll_nil (store : σ) : attemptAll store [] = store := rfl

@[simp]
theorem attemptAll_cons (store : σ) (record : Record) (records : List Record) :
    attemptAll store (record :: records) = attemptAll (attempt store record) records := rfl

/-- The records that the store takes when they are added one after another. -/
def accepted (store : σ) : List Record → List Record
  | [] => []
  | record :: records =>
    match insert store record with
    | .ok next => record :: accepted next records
    | .error _ => accepted store records

end Store

/-! ### In memory -/

instance : Std.LawfulEqOrd TableName where
  eq_of_compare := by
    intro first second same
    obtain ⟨tenant, recordType⟩ := Ordering.then_eq_eq.mp same
    have sameTenant : first.tenant = second.tenant :=
      Tag.ext_text (Std.LawfulEqOrd.eq_of_compare tenant)
    have sameType : first.recordType = second.recordType :=
      Tag.ext_text (Std.LawfulEqOrd.eq_of_compare recordType)
    cases first
    cases second
    simp_all

theorem Record.inTable_iff_tableName {tenant : Tenant} {recordType : RecordType} {record : Record} :
    record.inTable tenant recordType = true ↔
      (⟨tenant, recordType⟩ : TableName) = record.tableName := by
  rw [inTable_iff, tableName, TableName.mk.injEq, eq_comm, @eq_comm _ recordType]

namespace MemoryStore

theorem attempt_eq_insert (store : MemoryStore) (record : Record) :
    Store.attempt store record = store.insert record := rfl

/-- A record comes last in its own table, and no other table changes. -/
theorem all_insert (store : MemoryStore) (record : Record) (tenant : Tenant)
    (recordType : RecordType) :
    (store.insert record).all tenant recordType =
      store.all tenant recordType ++ [record].filter (Record.inTable tenant recordType) := by
  rw [all, all, rows, insert, SortedMap.get?_put, getEntry?]
  by_cases own : (⟨tenant, recordType⟩ : TableName) = record.tableName
  · have inTable := Record.inTable_iff_tableName.mpr own
    simp [own, inTable]
  · have foreign := mt Record.inTable_iff_tableName.mp own
    simp [own, foreign, rows]

/-- Of what is added to the tables each gets its own records, in the order in which they come. -/
theorem all_attemptAll (store : MemoryStore) (records : List Record) (tenant : Tenant)
    (recordType : RecordType) :
    (Store.attemptAll store records).all tenant recordType =
      store.all tenant recordType ++ records.filter (Record.inTable tenant recordType) := by
  induction records generalizing store with
  | nil => simp
  | cons record records ih =>
    rw [Store.attemptAll_cons, ih, attempt_eq_insert, all_insert, List.append_assoc,
      ← List.filter_append, List.singleton_append]

theorem all_attemptAll_empty (records : List Record) (tenant : Tenant) (recordType : RecordType) :
    (Store.attemptAll empty records).all tenant recordType =
      records.filter (Record.inTable tenant recordType) :=
  all_attemptAll empty records tenant recordType

theorem query_attemptAll_empty (records : List Record) (tenant : Tenant)
    (recordType : RecordType) (filter : Filter) :
    Store.query (Store.attemptAll empty records) tenant recordType filter =
      .ok ((records.filter (Record.inTable tenant recordType)).filter (·.answers filter)) := by
  rw [← all_attemptAll_empty]
  rfl

end MemoryStore

end NaturalKey
