import NaturalKey.Proofs.Store.Rows

/-!
What a store holds of one table. Of a store only this part decides what is asked about the table,
and of the records that are added to the store only those of the table change it. So a whole run
comes, for the table, to the run of its own records.
-/

set_option autoImplicit false

namespace NaturalKey

/-- The part of the stores of a kind that belongs to a table: what is in it, what a record of the
table does to it, and how it is read. -/
structure Store.TableView (σ : Type) [Store σ] (tenant : Tenant) (recordType : RecordType) where
  Content : Type
  content : σ → Content
  add : Content → Record → Content
  rows : Content → Except Fault (List Record)
  content_attempt_own : ∀ store record, record.inTable tenant recordType = true →
    content (attempt store record) = add (content store) record
  content_attempt_foreign : ∀ store record, ¬record.inTable tenant recordType = true →
    content (attempt store record) = content store
  all_eq : ∀ store, all store tenant recordType = rows (content store)
  query_eq : ∀ store filter, query store tenant recordType filter =
    (rows (content store)).map fun records => records.filter (·.answers filter)

namespace Store.TableView

variable {σ : Type} [Store σ] {tenant : Tenant} {recordType : RecordType}
  (view : TableView σ tenant recordType)

/-- What is in a table after a run is decided by what was in it and by its own records. -/
theorem content_attemptAll (store : σ) (records : List Record) :
    view.content (attemptAll store records) =
      (records.filter (Record.inTable tenant recordType)).foldl view.add (view.content store) := by
  induction records generalizing store with
  | nil => rfl
  | cons record records ih =>
    rw [attemptAll_cons, ih]
    by_cases own : record.inTable tenant recordType = true
    · rw [view.content_attempt_own store record own, List.filter_cons, if_pos own, List.foldl_cons]
    · rw [view.content_attempt_foreign store record own, List.filter_cons, if_neg own]

end Store.TableView

namespace MemoryStore

def tableView (tenant : Tenant) (recordType : RecordType) :
    Store.TableView MemoryStore tenant recordType where
  Content := List Record
  content store := store.all tenant recordType
  add rows record := rows ++ [record]
  rows := .ok
  content_attempt_own store record own := by
    rw [attempt_eq_insert, all_insert, List.filter_cons_of_pos own, List.filter_nil]
  content_attempt_foreign store record foreign := by
    rw [attempt_eq_insert, all_insert, List.filter_cons_of_neg foreign, List.filter_nil,
      List.append_nil]
  all_eq _ := rfl
  query_eq _ _ := rfl

end MemoryStore

namespace KeyedStore

def startsTable (tenant : Tenant) (recordType : RecordType) (key : List UInt8) : Bool :=
  (tableStart tenant recordType).isPrefixOf key

theorem startsTable_keyBytes {record : Record} (h : Storable record) (tenant : Tenant)
    (recordType : RecordType) :
    startsTable tenant recordType (keyBytes record) = record.inTable tenant recordType := by
  rw [Bool.eq_iff_iff, startsTable, List.isPrefixOf_iff_prefix, tableStart_isPrefix_keyBytes_iff h,
    Record.inTable_iff]

/-- Under keys a table is what stands under keys that start as its own do, whatever else is stored
and whether or not it can be read. -/
def tableView (tenant : Tenant) (recordType : RecordType) :
    Store.TableView KeyedStore tenant recordType where
  Content := List (List UInt8 × List UInt8)
  content store := store.texts.entries.filter fun entry => startsTable tenant recordType entry.1
  add entries record :=
    if Storable record then putEntry (keyBytes record) (Utf8.encode record.text) entries
    else entries
  rows entries := (entries.map Prod.snd).mapM Record.parse
  content_attempt_own store record own := by
    by_cases storable : Storable record
    · rw [attempt_of_storable storable, if_pos storable]
      apply filter_putEntry_of_pos _ _ store.texts.ascending
      rw [startsTable_keyBytes storable, own]
    · rw [attempt_of_not_storable storable, if_neg storable]
  content_attempt_foreign store record foreign := by
    by_cases storable : Storable record
    · rw [attempt_of_storable storable]
      apply filter_putEntry_of_not
      rwa [startsTable_keyBytes storable]
    · rw [attempt_of_not_storable storable]
  all_eq store := by
    have texts := textsFrom_eq_filter store (tableStart tenant recordType)
    exact congrArg (List.mapM Record.parse) texts
  query_eq store filter := by
    have texts := textsFrom_eq_filter store (tableStart tenant recordType)
    have rows : store.all tenant recordType = _ := congrArg (List.mapM Record.parse) texts
    change store.query tenant recordType filter = _
    rw [query, rows]
    rfl

end KeyedStore

end NaturalKey
