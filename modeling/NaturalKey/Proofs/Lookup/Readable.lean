import NaturalKey.Proofs.Csv.Texts
import NaturalKey.Proofs.Lookup
import NaturalKey.Proofs.Record.Nesting
import NaturalKey.Proofs.Seed.Decoding
import NaturalKey.Proofs.Store.Table

/-!
What can be read of a keyed store that is filled with records that were read themselves. All of a
table can, unless one of its rows came from a seed file with attributes that are nested as deep as a
document may be: the text of a record puts them one level deeper.
-/

set_option autoImplicit false

namespace NaturalKey

/-- The record was read, as a row of a seed file or as a text. -/
inductive Record.IsRead (record : Record) : Prop
  | row {text : List UInt8} : .ok record ∈ Seed.records text → IsRead record
  | text {text : List UInt8} : Record.parse text = .ok record → IsRead record

/-- Of what is read only the attributes that fill a document by themselves are too deep. -/
theorem Record.IsRead.not_shallow_iff {record : Record} (h : record.IsRead) :
    ¬record.Shallow ↔ record.attributes.toJson.depth = Json.depthLimit := by
  have limit : Json.depthLimit = attributeBudget + 2 := rfl
  have le : record.attributes.toJson.depth ≤ Json.depthLimit := by
    cases h with
    | row among => exact Seed.depth_records_le among
    | text parsed => exact Nat.le_trans (shallow_of_parse parsed) (Nat.le_succ _)
  rw [Shallow]
  omega

def FailsToRead {α : Type} (outcome : Except Fault α) : Prop :=
  ∃ problem, outcome = .error (.document problem)

theorem not_failsToRead_of_ok {α : Type} {outcome : Except Fault α} {value : α}
    (h : outcome = .ok value) : ¬FailsToRead outcome := by
  rintro ⟨problem, failed⟩
  rw [h] at failed
  cases failed

namespace Lookup

open KeyedStore (Storable rows)

/-- One of the rows of the table has attributes that are nested as deep as a document may be. -/
def HoldsDeepest (records : List Record) (tenant : Tenant) (recordType : RecordType) : Prop :=
  ∃ row, (Storable row ∧ (row.tenant = tenant ∧ row.recordType = recordType) ∧
    LastOfKey records row) ∧ row.attributes.toJson.depth = Json.depthLimit

section Readable

variable {records : List Record} {tenant : Tenant} {recordType : RecordType}

theorem all_of_holdsDeepest (read : ∀ r ∈ records, r.IsRead)
    (deepest : HoldsDeepest records tenant recordType) :
    ∃ position, KeyedStore.all (Store.attemptAll KeyedStore.empty records) tenant recordType =
      .error (.document (.malformed ⟨.tooDeep, position⟩)) := by
  obtain ⟨row, current, depth⟩ := deepest
  have deep := (read row current.2.2.mem).not_shallow_iff.mpr depth
  exact KeyedStore.all_of_not_shallow (KeyedStore.mem_rows_iff.mpr current) deep

theorem all_of_not_holdsDeepest (read : ∀ r ∈ records, r.IsRead)
    (readable : ¬HoldsDeepest records tenant recordType) :
    KeyedStore.all (Store.attemptAll KeyedStore.empty records) tenant recordType =
      .ok ((rows records tenant recordType).map Record.reread) := by
  apply KeyedStore.all_of_shallow
  intro row member
  have current := KeyedStore.mem_rows_iff.mp member
  by_contra deep
  exact readable ⟨row, current, (read row current.2.2.mem).not_shallow_iff.mp deep⟩

theorem failsToRead_all_iff (read : ∀ r ∈ records, r.IsRead) :
    FailsToRead (KeyedStore.all (Store.attemptAll KeyedStore.empty records) tenant recordType) ↔
      HoldsDeepest records tenant recordType := by
  by_cases deepest : HoldsDeepest records tenant recordType
  · obtain ⟨position, failed⟩ := all_of_holdsDeepest read deepest
    exact iff_of_true ⟨_, failed⟩ deepest
  · have found := all_of_not_holdsDeepest read deepest
    exact iff_of_false (not_failsToRead_of_ok found) deepest

theorem exists_all_iff (read : ∀ r ∈ records, r.IsRead) :
    (∃ table, KeyedStore.all (Store.attemptAll KeyedStore.empty records) tenant recordType =
      .ok table) ↔ ¬HoldsDeepest records tenant recordType := by
  constructor
  · rintro ⟨table, found⟩
    exact mt (failsToRead_all_iff read).mpr (not_failsToRead_of_ok found)
  · intro readable
    exact ⟨_, all_of_not_holdsDeepest read readable⟩

theorem failsToRead_query_iff (read : ∀ r ∈ records, r.IsRead) (filter : Filter) :
    FailsToRead (KeyedStore.query (Store.attemptAll KeyedStore.empty records) tenant recordType
      filter) ↔ HoldsDeepest records tenant recordType := by
  by_cases deepest : HoldsDeepest records tenant recordType
  · obtain ⟨position, failed⟩ := all_of_holdsDeepest read deepest
    exact iff_of_true ⟨_, KeyedStore.query_of_all_error failed filter⟩ deepest
  · have found := KeyedStore.query_of_all (all_of_not_holdsDeepest read deepest) filter
    exact iff_of_false (not_failsToRead_of_ok found) deepest

end Readable

theorem not_failsToRead_only (recordType : RecordType) (filter : Filter) (records : List Record) :
    ¬FailsToRead (only recordType filter records) := by
  rintro ⟨problem, failed⟩
  cases outcome_iff.mpr failed

section Stores

variable {σ : Type} [Store σ]

theorem findOne_of_query_error (lookup : Lookup σ) {recordType : RecordType} {filter : Filter}
    {fault : Fault}
    (h : Store.query lookup.store lookup.tenant recordType filter = .error fault) :
    (lookup.findOne recordType filter).result = .error fault := by
  rw [findOne, h]
  rfl

theorem failsToRead_findById_iff (lookup : Lookup σ) (typeText idText : String) :
    FailsToRead (lookup.findById typeText idText).result ↔
      Text.isBlank idText = false ∧ ∃ recordType field, recordType.text = Text.trim typeText ∧
        lookup.registry.field? recordType = some field ∧
        FailsToRead (lookup.findOne recordType ⟨field, idText⟩).result := by
  cases id : Text.isBlank idText with
  | true =>
    rw [findById_of_blank_id lookup typeText id]
    simp [FailsToRead]
  | false =>
    by_cases blank : Text.trim typeText = ""
    · have noTag : ∀ recordType : RecordType, recordType.text ≠ Text.trim typeText :=
        fun recordType same => Tag.trim_ne_empty recordType same blank
      rw [findById_of_blank_type lookup id blank]
      simp [FailsToRead, noTag]
    · obtain ⟨recordType, same⟩ : ∃ recordType : RecordType, _ := Tag.exists_text_eq_trim blank
      have unique : ∀ other : RecordType, other.text = Text.trim typeText → other = recordType :=
        fun other same' => Tag.ext_text (same'.trans same.symm)
      cases known : lookup.registry.field? recordType with
      | none =>
        rw [findById_of_unknown lookup id same known]
        constructor
        · rintro ⟨problem, failed⟩
          cases failed
        · rintro ⟨-, other, field, same', known', -⟩
          rw [unique other same', known] at known'
          cases known'
      | some field =>
        rw [findById_of_field lookup id same known]
        constructor
        · intro failed
          exact ⟨rfl, recordType, field, same, known, failed⟩
        · rintro ⟨-, other, field', same', known', failed⟩
          obtain rfl := unique other same'
          rw [known] at known'
          cases known'
          exact failed

end Stores

theorem failsToRead_findOne_iff {records : List Record} (read : ∀ r ∈ records, r.IsRead)
    (registry : Registry) (tenant : Tenant) (recordType : RecordType) (filter : Filter) :
    FailsToRead (findOne ⟨Store.attemptAll KeyedStore.empty records, registry, tenant⟩ recordType
      filter).result ↔ HoldsDeepest records tenant recordType := by
  by_cases deepest : HoldsDeepest records tenant recordType
  · obtain ⟨position, failed⟩ := all_of_holdsDeepest read deepest
    have asked := KeyedStore.query_of_all_error failed filter
    exact iff_of_true ⟨_, findOne_of_query_error _ asked⟩ deepest
  · have asked := KeyedStore.query_of_all (all_of_not_holdsDeepest read deepest) filter
    rw [findOne_of_query _ asked]
    exact iff_of_false (not_failsToRead_only _ _ _) deepest

/-- Where reading fails. The records of a run were read themselves; afterwards a table cannot be
read if and only if one of its rows has the deepest attributes there are, and then every question
about this table fails. -/
theorem failsToRead_iff_holdsDeepest {records : List Record} (read : ∀ r ∈ records, r.IsRead)
    (registry : Registry) (tenant : Tenant) :
    let store := Store.attemptAll KeyedStore.empty records
    let lookup : Lookup KeyedStore := ⟨store, registry, tenant⟩
    (∀ recordType,
      (FailsToRead (store.all tenant recordType) ↔ HoldsDeepest records tenant recordType) ∧
      ((∃ table, store.all tenant recordType = .ok table) ↔
        ¬HoldsDeepest records tenant recordType) ∧
      ∀ filter,
        (FailsToRead (store.query tenant recordType filter) ↔
          HoldsDeepest records tenant recordType) ∧
        (FailsToRead (lookup.findOne recordType filter).result ↔
          HoldsDeepest records tenant recordType)) ∧
    ∀ typeText idText,
      FailsToRead (lookup.findById typeText idText).result ↔
        Text.isBlank idText = false ∧ ∃ recordType field, recordType.text = Text.trim typeText ∧
          registry.field? recordType = some field ∧ HoldsDeepest records tenant recordType := by
  intro store lookup
  constructor
  · intro recordType
    refine ⟨failsToRead_all_iff read, exists_all_iff read, ?_⟩
    intro filter
    exact ⟨failsToRead_query_iff read filter,
      failsToRead_findOne_iff read registry tenant recordType filter⟩
  · intro typeText idText
    have findOne := failsToRead_findOne_iff read registry tenant
    rw [failsToRead_findById_iff]
    simp only [lookup, store, findOne]

/-- The attributes `\x7b"":[[...]]\x7d` with as many levels as a document may have. -/
def deepestAttributes : List Char :=
  ['\x7b', '\x22', '\x22', ':'] ++ List.replicate 126 '[' ++ List.replicate 126 ']' ++ ['\x7d']

def deepestRow : Seed.Row :=
  ⟨"", "User", "user_id", "u-1", String.ofList deepestAttributes⟩

def deepestSeed : List UInt8 :=
  Utf8.encode "type,key,id,attributes\nUser,user_id,u-1," ++
    deepestAttributes.flatMap Utf8.encodeChar

theorem exists_attributesObject_deepestRow : ∃ object : Json.Object,
    deepestRow.attributesObject = .ok object ∧ object.toJson.depth = Json.depthLimit := by
  have parsed : (match Json.parse (deepestAttributes.flatMap Utf8.encodeChar) with
      | .ok value => value.object?.isSome && value.json.depth == Json.depthLimit
      | .error _ => false) = true := by decide +kernel
  have nonempty : (String.ofList deepestAttributes).isEmpty = false := by
    rw [← Bool.not_eq_true, String.isEmpty_iff]
    intro empty
    have chars := congrArg String.toList empty
    rw [String.toList_ofList] at chars
    cases chars
  simp only [Seed.Row.attributesObject, deepestRow, nonempty, Bool.false_eq_true, if_false,
    Utf8.encode_ofList]
  split at parsed
  · rename_i value found
    simp only [Bool.and_eq_true, beq_iff_eq, Option.isSome_iff_exists] at parsed
    obtain ⟨⟨object, isObject⟩, depth⟩ := parsed
    refine ⟨object, by rw [found]; simp only [isObject], ?_⟩
    rw [Json.Value.toJson_of_object? isObject, depth]
  · cases parsed

theorem record_mem_records_deepestSeed : deepestRow.record ∈ Seed.records deepestSeed := by
  have names : (Csv.Table.ofText deepestSeed).names? =
      some ["type", "key", "id", "attributes"] := by
    decide +kernel
  have rows : (Csv.Table.ofText deepestSeed).rows.map Csv.Row.fields =
      [["User", "user_id", "u-1", String.ofList deepestAttributes].map Utf8.encode] := by
    simp only [List.map_cons, List.map_nil, Utf8.encode_ofList]
    decide +kernel
  have trimmed : ["User", "user_id", "u-1", String.ofList deepestAttributes].map Text.trim =
      ["User", "user_id", "u-1", String.ofList deepestAttributes] := by
    have chars : Text.trimEnd (Text.trimStart deepestAttributes) = deepestAttributes := by
      decide +kernel
    simp only [List.map_cons, List.map_nil, Text.trim, String.toList_ofList, chars]
    rfl
  obtain ⟨row, others, same, holds, -⟩ := List.map_eq_cons_iff.mp rows
  have texts := Csv.Row.Holds.texts holds
  rw [trimmed] at texts
  have read : Seed.Row.read (some ["type", "key", "id", "attributes"]) row = .ok deepestRow := by
    rw [Seed.Row.read, texts]
    rfl
  apply List.mem_map.mpr
  exact ⟨row, same ▸ List.mem_cons_self, by rw [names, Seed.recordOfRow, read]⟩

/-- A row is accepted and makes its table unreadable. -/
theorem failsToRead_deepest : ∃ record : Record, record.IsRead ∧
    (∃ next, KeyedStore.empty.insert record = .ok next) ∧
    FailsToRead ((Store.attemptAll KeyedStore.empty [record]).all record.tenant
      record.recordType) := by
  obtain ⟨object, found, depth⟩ := exists_attributesObject_deepestRow
  have recorded : deepestRow.record = .ok (Record.mk Tenant.default ⟨"User", by decide⟩ "user_id"
      ⟨"u-1", by decide⟩ object) := by
    rw [Seed.Row.record, found]
    rfl
  generalize recordIs : Record.mk Tenant.default ⟨"User", by decide⟩ "user_id" ⟨"u-1", by decide⟩
    object = record at recorded
  have storable : Storable record := by
    rw [← recordIs]
    simp only [Storable]
    decide +kernel
  have isRead : record.IsRead := .row (recorded ▸ record_mem_records_deepestSeed)
  have read : ∀ r ∈ [record], r.IsRead := by
    intro r member
    rwa [List.mem_singleton.mp member]
  have deepest : HoldsDeepest [record] record.tenant record.recordType :=
    ⟨record, ⟨storable, ⟨rfl, rfl⟩, [], [], rfl, by simp⟩, by rw [← recordIs]; exact depth⟩
  have tables := (failsToRead_iff_holdsDeepest read Registry.default record.tenant).1
  exact ⟨record, isRead, ⟨_, KeyedStore.insert_of_storable storable _⟩,
    (tables record.recordType).1.mpr deepest⟩

end Lookup

end NaturalKey
