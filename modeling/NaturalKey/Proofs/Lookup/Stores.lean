import NaturalKey.Proofs.Lookup
import NaturalKey.Proofs.Lookup.Memory
import NaturalKey.Proofs.Record.Nesting
import NaturalKey.Proofs.Store.Table
import NaturalKey.Proofs.Store.View

/-!
Lookups over either store. As long as keys are distinct and can be stored, and records can be read
back, nothing tells the stores apart, nor the order in which they were filled. Tables are kept
apart: whatever is added for other tenants or other types, refused or accepted, readable or not, no
question about a table and no lookup in it comes to anything else.
-/

set_option autoImplicit false

namespace NaturalKey.Lookup

open KeyedStore (Storable rows)

/-- Where keys are distinct a keyed store holds all records that were added to it. -/
theorem rows_perm_filter {records inserted : List Record} (distinct : DistinctKeys records)
    (storable : ∀ r ∈ records, Storable r) (perm : inserted.Perm records) (tenant : Tenant)
    (recordType : RecordType) :
    (rows inserted tenant recordType).Perm (records.filter (Record.inTable tenant recordType)) := by
  apply (List.perm_ext_iff_of_nodup (KeyedStore.nodup_rows inserted tenant recordType)
    (distinct.nodup.filter _)).mpr
  intro r
  have last := (distinct.perm perm.symm).lastOfKey_iff (r := r)
  rw [KeyedStore.mem_rows_iff, List.mem_filter, Record.inTable_iff, last, perm.mem_iff]
  constructor
  · rintro ⟨-, table, member⟩
    exact ⟨member, table⟩
  · rintro ⟨member, table⟩
    exact ⟨storable r member, table, member⟩

/-- A lookup finds the same over either store, in whatever order they were filled. -/
theorem find_memory_eq_find_keyed {records inserted : List Record} (distinct : DistinctKeys records)
    (storable : ∀ r ∈ records, Storable r) (integral : ∀ r ∈ records, r.Integral)
    (shallow : ∀ r ∈ records, r.Shallow) (perm : inserted.Perm records) (registry : Registry)
    (tenant : Tenant) :
    let memory : Lookup MemoryStore :=
      ⟨Store.attemptAll MemoryStore.empty records, registry, tenant⟩
    let keyed : Lookup KeyedStore :=
      ⟨Store.attemptAll KeyedStore.empty inserted, registry, tenant⟩
    (∀ recordType filter, memory.findOne recordType filter = keyed.findOne recordType filter) ∧
      ∀ typeText idText, memory.findById typeText idText = keyed.findById typeText idText := by
  intro memory keyed
  have findOne : ∀ recordType filter,
      memory.findOne recordType filter = keyed.findOne recordType filter := by
    intro recordType filter
    have among : ∀ row ∈ rows inserted tenant recordType, row ∈ records := fun row member =>
      perm.mem_iff.mp (KeyedStore.mem_rows_iff.mp member).2.2.mem
    have read : KeyedStore.all keyed.store tenant recordType =
        .ok (rows inserted tenant recordType) :=
      KeyedStore.all_of_integral (fun row member => shallow row (among row member))
        fun row member => integral row (among row member)
    have asked := KeyedStore.query_of_all read filter
    have added := MemoryStore.query_attemptAll_empty records tenant recordType filter
    apply findOne_eq_of_perm memory keyed rfl added asked
    exact (rows_perm_filter distinct storable perm tenant recordType).symm.filter _
  exact ⟨findOne, findById_eq_of_findOne rfl findOne⟩

/-- Two users are found alike over either store, added to one of them the other way round. -/
theorem find_users_alike :
    let users := [Record.user ⟨"u-1", by decide⟩, Record.user ⟨"u-2", by decide⟩]
    (DistinctKeys users ∧ (∀ r ∈ users, Storable r) ∧ (∀ r ∈ users, r.Integral) ∧
      (∀ r ∈ users, r.Shallow) ∧ users.reverse.Perm users) ∧
    ∀ typeText idText,
      findById ⟨Store.attemptAll MemoryStore.empty users, Registry.default, Tenant.default⟩
          typeText idText =
        findById ⟨Store.attemptAll KeyedStore.empty users.reverse, Registry.default,
          Tenant.default⟩ typeText idText := by
  intro users
  have distinct : DistinctKeys users := distinctKeys_users (by decide)
  have storable : ∀ r ∈ users, Storable r :=
    List.forall_mem_cons.mpr ⟨Record.storable_user (by decide),
      List.forall_mem_singleton.mpr (Record.storable_user (by decide))⟩
  have integral : ∀ r ∈ users, r.Integral :=
    List.forall_mem_cons.mpr
      ⟨Record.integral_user _, List.forall_mem_singleton.mpr (Record.integral_user _)⟩
  have shallow : ∀ r ∈ users, r.Shallow :=
    List.forall_mem_cons.mpr
      ⟨Record.shallow_user _, List.forall_mem_singleton.mpr (Record.shallow_user _)⟩
  have perm : users.reverse.Perm users := List.reverse_perm users
  exact ⟨⟨distinct, storable, integral, shallow, perm⟩,
    (find_memory_eq_find_keyed distinct storable integral shallow perm Registry.default
      Tenant.default).2⟩

end NaturalKey.Lookup

/-! ### Tables -/

namespace NaturalKey

namespace Lookup

variable {σ : Type} [Store σ]

theorem findById_eq_of_findOne_type {a b : Lookup σ} (registry : a.registry = b.registry)
    {recordType : RecordType}
    (h : ∀ filter, a.findOne recordType filter = b.findOne recordType filter) {typeText : String}
    (same : Text.trim typeText = recordType.text) (idText : String) :
    a.findById typeText idText = b.findById typeText idText := by
  simp only [findById, same, Tag.ofText_text, Traced.lift_ok_bind, keyField, registry, h]

/-- No question about the table tells the two stores apart, asked directly or through a lookup. -/
structure Alike (tenant : Tenant) (recordType : RecordType) (first second : σ) : Prop where
  all : Store.all first tenant recordType = Store.all second tenant recordType
  query : ∀ filter,
    Store.query first tenant recordType filter = Store.query second tenant recordType filter
  findOne : ∀ registry filter,
    findOne ⟨first, registry, tenant⟩ recordType filter =
      findOne ⟨second, registry, tenant⟩ recordType filter
  findById : ∀ registry typeText idText, Text.trim typeText = recordType.text →
    findById ⟨first, registry, tenant⟩ typeText idText =
      findById ⟨second, registry, tenant⟩ typeText idText

variable {tenant : Tenant} {recordType : RecordType}

/-- Stores that hold the same of a table are alike for it. -/
theorem alike_of_content_eq (view : Store.TableView σ tenant recordType) {first second : σ}
    (same : view.content first = view.content second) : Alike tenant recordType first second := by
  have query : ∀ filter,
      Store.query first tenant recordType filter = Store.query second tenant recordType filter := by
    intro filter
    rw [view.query_eq, view.query_eq, same]
  have findOne : ∀ registry filter,
      findOne ⟨first, registry, tenant⟩ recordType filter =
        findOne ⟨second, registry, tenant⟩ recordType filter := by
    intro registry filter
    simp only [Lookup.findOne, query]
  constructor
  · rw [view.all_eq, view.all_eq, same]
  · exact query
  · exact findOne
  · intro registry typeText idText trimmed
    apply findById_eq_of_findOne_type _ (findOne registry) trimmed
    rfl

/-- Runs with the same records of a table leave stores that are alike for it. -/
theorem alike_attemptAll (view : Store.TableView σ tenant recordType) (store : σ)
    {records others : List Record}
    (h : records.filter (Record.inTable tenant recordType) =
      others.filter (Record.inTable tenant recordType)) :
    Alike tenant recordType (Store.attemptAll store records) (Store.attemptAll store others) := by
  apply alike_of_content_eq view
  rw [view.content_attemptAll, view.content_attemptAll, h]

/-- Nothing that is added for another tenant or another type can be noticed: of any two runs with
the same records of a table, whatever else is in them, the stores are alike for it. -/
theorem tables_isolated {records others : List Record}
    (h : records.filter (Record.inTable tenant recordType) =
      others.filter (Record.inTable tenant recordType)) :
    (∀ memory : MemoryStore, Alike tenant recordType (Store.attemptAll memory records)
      (Store.attemptAll memory others)) ∧
    ∀ keyed : KeyedStore, Alike tenant recordType (Store.attemptAll keyed records)
      (Store.attemptAll keyed others) := by
  constructor
  · intro memory
    exact alike_attemptAll (MemoryStore.tableView tenant recordType) memory h
  · intro keyed
    exact alike_attemptAll (KeyedStore.tableView tenant recordType) keyed h

/-- A user is found as before beside a table that cannot be read and beside a refused record whose
tags together look like the key of a user. -/
theorem users_isolated :
    let userType : RecordType := ⟨"User", by decide⟩
    let otherType : RecordType := ⟨"Users", by decide⟩
    let user := Record.user ⟨"u-1", by decide⟩
    let others := [Record.nested otherType ⟨"u-1", by decide⟩ 125, user,
      Record.nested ⟨"User\x1fu-1", by decide⟩ ⟨"u-2", by decide⟩ 0]
    [user].filter (Record.inTable Tenant.default userType) =
        others.filter (Record.inTable Tenant.default userType) ∧
      (∃ position, KeyedStore.all (Store.attemptAll KeyedStore.empty others) Tenant.default
        otherType = .error (.document (.malformed ⟨.tooDeep, position⟩))) ∧
      Alike Tenant.default userType (Store.attemptAll KeyedStore.empty [user])
        (Store.attemptAll KeyedStore.empty others) := by
  intro userType otherType user others
  have same : [user].filter (Record.inTable Tenant.default userType) =
      others.filter (Record.inTable Tenant.default userType) := by
    rfl
  refine ⟨same, ?_, (tables_isolated same).2 KeyedStore.empty⟩
  have deep : ¬(Record.nested otherType ⟨"u-1", by decide⟩ 125).Shallow := by
    rw [Record.shallow_nested_iff]
    decide
  apply KeyedStore.all_of_not_shallow _ deep
  apply KeyedStore.mem_rows_iff.mpr
  refine ⟨by decide, ⟨rfl, rfl⟩, [], _, rfl, ?_⟩
  intro other member
  rcases List.mem_cons.mp member with rfl | member
  · rintro ⟨-, differ, -⟩
    exact absurd (congrArg Tag.text differ) (by decide)
  · rw [List.mem_singleton.mp member]
    rintro ⟨-, differ, -⟩
    exact absurd (congrArg Tag.text differ) (by decide)

end Lookup

end NaturalKey
