import NaturalKey.Proofs.Record.Reading
import NaturalKey.Proofs.Store.Key

/-!
What a keyed store holds after a run. It is a map from keys to records, of which only the texts are
kept: putting the records by key and then writing them comes to the same as writing each of them
before it is put. A table is then the part of the map whose records belong to it.
-/

set_option autoImplicit false

namespace NaturalKey

namespace KeyedStore

/-! ### Inserting -/

theorem insert_of_storable {record : Record} (h : Storable record) (store : KeyedStore) :
    insert store record =
      .ok ⟨store.texts.put (keyBytes record) (Utf8.encode record.text)⟩ := by
  simp only [insert, key_of_storable h]

theorem insert_of_not_storable {record : Record} (h : ¬Storable record) (store : KeyedStore) :
    insert store record = .error (.invalid .reservedCharacter) := by
  simp only [insert, key_of_not_storable h]

theorem attempt_of_storable {record : Record} (h : Storable record) (store : KeyedStore) :
    Store.attempt store record =
      ⟨store.texts.put (keyBytes record) (Utf8.encode record.text)⟩ :=
  Store.attempt_of_insert_ok (insert_of_storable h store)

theorem attempt_of_not_storable {record : Record} (h : ¬Storable record) (store : KeyedStore) :
    Store.attempt store record = store :=
  Store.attempt_of_insert_error (insert_of_not_storable h store)

/-- What a keyed store takes does not depend on what it holds. -/
theorem accepted_eq_filter (store : KeyedStore) (records : List Record) :
    Store.accepted store records = records.filter fun record => decide (Storable record) := by
  induction records generalizing store with
  | nil => rfl
  | cons record records ih =>
    rw [Store.accepted]
    by_cases storable : Storable record
    · have taken : Store.insert store record = .ok _ := insert_of_storable storable store
      rw [taken, List.filter_cons_of_pos (by simpa using storable)]
      exact congrArg _ (ih _)
    · have refused : Store.insert store record = .error _ := insert_of_not_storable storable store
      rw [refused, List.filter_cons_of_neg (by simpa using storable)]
      exact ih store

theorem lastOfKey_accepted_iff {store : KeyedStore} {records : List Record} {r : Record} :
    LastOfKey (Store.accepted store records) r ↔ Storable r ∧ LastOfKey records r := by
  rw [accepted_eq_filter]
  induction records with
  | nil => simp [not_lastOfKey_nil]
  | cons s records ih =>
    rw [lastOfKey_cons]
    by_cases storable : Storable s
    · rw [List.filter_cons_of_pos (by simpa using storable), lastOfKey_cons, ih]
      have others : (∀ other ∈ records.filter fun record => decide (Storable record),
          ¬s.SameKey other) ↔ ∀ other ∈ records, ¬s.SameKey other := by
        constructor
        · intro fresh other member same
          have kept : Storable other := (storable_iff_of_sameKey same).mp storable
          exact fresh other (List.mem_filter.mpr ⟨member, by simpa using kept⟩) same
        · intro fresh other member
          exact fresh other (List.mem_filter.mp member).1
      constructor
      · rintro (⟨own, last⟩ | ⟨rfl, fresh⟩)
        · exact ⟨own, .inl last⟩
        · exact ⟨storable, .inr ⟨rfl, others.mp fresh⟩⟩
      · rintro ⟨own, last | ⟨rfl, fresh⟩⟩
        · exact .inl ⟨own, last⟩
        · exact .inr ⟨rfl, others.mpr fresh⟩
    · rw [List.filter_cons_of_neg (by simpa using storable), ih]
      constructor
      · rintro ⟨own, last⟩
        exact ⟨own, .inl last⟩
      · rintro ⟨own, last | ⟨rfl, -⟩⟩
        · exact ⟨own, last⟩
        · exact absurd own storable

/-! ### Records by key -/

abbrev RecordMap : Type := SortedMap (List UInt8) Record

def keep (map : RecordMap) (record : Record) : RecordMap :=
  if Storable record then map.put (keyBytes record) record else map

/-- The records of a run, of those of the same key the last. -/
def byKey (records : List Record) : RecordMap :=
  records.foldl keep .empty

def Holds (store : KeyedStore) (map : RecordMap) : Prop :=
  store.texts.entries = map.entries.map fun entry => (entry.1, Utf8.encode entry.2.text)

theorem Holds.attempt {store : KeyedStore} {map : RecordMap} (h : Holds store map)
    (record : Record) : Holds (Store.attempt store record) (keep map record) := by
  by_cases storable : Storable record
  · rw [attempt_of_storable storable, keep, if_pos storable, Holds, SortedMap.entries_put,
      SortedMap.entries_put, map_putEntry fun record : Record => Utf8.encode record.text, h]
  · rwa [attempt_of_not_storable storable, keep, if_neg storable]

theorem Holds.attemptAll {store : KeyedStore} {map : RecordMap} (h : Holds store map)
    (records : List Record) : Holds (Store.attemptAll store records) (records.foldl keep map) := by
  induction records generalizing store map with
  | nil => exact h
  | cons record records ih => exact ih (h.attempt record)

theorem holds_attemptAll_empty (records : List Record) :
    Holds (Store.attemptAll empty records) (byKey records) := by
  have start : Holds empty .empty := by
    rw [Holds]
    rfl
  exact start.attemptAll records

/-- Every record of the map stands under its key. -/
def Keyed (map : RecordMap) : Prop :=
  ∀ key record, (key, record) ∈ map.entries → Storable record ∧ key = keyBytes record

theorem Keyed.keep {map : RecordMap} (h : Keyed map) (s : Record) : Keyed (keep map s) := by
  rw [KeyedStore.keep]
  split
  · rename_i storable
    intro key record member
    rw [SortedMap.entries_put, mem_putEntry_iff map.ascending] at member
    rcases member with ⟨rfl, rfl⟩ | ⟨-, member⟩
    · exact ⟨storable, rfl⟩
    · exact h key record member
  · exact h

/-- What is in the map after a run was put by the last record of its key, or was there before and is
not replaced. -/
theorem mem_foldl_keep_iff {map : RecordMap} (keyed : Keyed map) (records : List Record)
    {k : List UInt8} {r : Record} :
    (k, r) ∈ (records.foldl keep map).entries ↔
      k = keyBytes r ∧ Storable r ∧ LastOfKey records r ∨
        (k, r) ∈ map.entries ∧ ∀ s ∈ records, ¬r.SameKey s := by
  induction records generalizing map with
  | nil => simp [not_lastOfKey_nil]
  | cons s records ih =>
    rw [List.foldl_cons, lastOfKey_cons]
    by_cases storable : Storable s
    · have kept : keep map s = map.put (keyBytes s) s := by rw [keep, if_pos storable]
      have same (h : Storable r) : keyBytes r = keyBytes s ↔ r.SameKey s := keyBytes_inj h
      rw [ih (keyed.keep s), kept, SortedMap.entries_put, mem_putEntry_iff map.ascending]
      constructor
      · rintro (⟨rfl, own, last⟩ | ⟨⟨rfl, rfl⟩ | ⟨differ, old⟩, fresh⟩)
        · exact .inl ⟨rfl, own, .inl last⟩
        · exact .inl ⟨rfl, storable, .inr ⟨rfl, fresh⟩⟩
        · obtain ⟨own, rfl⟩ := keyed k r old
          refine .inr ⟨old, fun other member => ?_⟩
          rcases List.mem_cons.mp member with rfl | member
          · exact mt (same own).mpr differ
          · exact fresh other member
      · rintro (⟨rfl, own, last | ⟨rfl, fresh⟩⟩ | ⟨old, fresh⟩)
        · exact .inl ⟨rfl, own, last⟩
        · exact .inr ⟨.inl ⟨rfl, rfl⟩, fresh⟩
        · obtain ⟨own, rfl⟩ := keyed k r old
          have differ := mt (same own).mp (fresh s List.mem_cons_self)
          exact .inr ⟨.inr ⟨differ, old⟩,
            fun other member => fresh other (List.mem_cons_of_mem _ member)⟩
    · have kept : keep map s = map := by rw [keep, if_neg storable]
      have foreign (own : Storable r) : ¬r.SameKey s :=
        fun same => storable ((storable_iff_of_sameKey same).mp own)
      rw [kept, ih keyed]
      constructor
      · rintro (⟨rfl, own, last⟩ | ⟨old, fresh⟩)
        · exact .inl ⟨rfl, own, .inl last⟩
        · refine .inr ⟨old, fun other member => ?_⟩
          rcases List.mem_cons.mp member with rfl | member
          · exact foreign (keyed k r old).1
          · exact fresh other member
      · rintro (⟨rfl, own, last | ⟨rfl, -⟩⟩ | ⟨old, fresh⟩)
        · exact .inl ⟨rfl, own, last⟩
        · exact absurd own storable
        · exact .inr ⟨old, fun other member => fresh other (List.mem_cons_of_mem _ member)⟩

theorem mem_byKey_iff (records : List Record) {k : List UInt8} {r : Record} :
    (k, r) ∈ (byKey records).entries ↔ k = keyBytes r ∧ Storable r ∧ LastOfKey records r := by
  have keyed : Keyed .empty := by
    intro key record member
    simp at member
  rw [byKey, mem_foldl_keep_iff keyed]
  simp

theorem keyed_byKey (records : List Record) : Keyed (byKey records) := by
  intro key record member
  obtain ⟨rfl, storable, -⟩ := (mem_byKey_iff records).mp member
  exact ⟨storable, rfl⟩

/-! ### Tables -/

variable {tenant : Tenant} {recordType : RecordType}

/-- The records of a table after a run, as they were when they were accepted. -/
def rows (records : List Record) (tenant : Tenant) (recordType : RecordType) : List Record :=
  ((byKey records).entries.map Prod.snd).filter (Record.inTable tenant recordType)

/-- The rows of a table are the last of their keys among the records that were accepted. -/
theorem mem_rows_iff {records : List Record} {r : Record} :
    r ∈ rows records tenant recordType ↔
      Storable r ∧ (r.tenant = tenant ∧ r.recordType = recordType) ∧ LastOfKey records r := by
  simp only [rows, List.mem_filter, List.mem_map, Prod.exists, mem_byKey_iff, Record.inTable_iff,
    exists_eq_right, exists_eq_left]
  grind

theorem compare_append_left (start a b : List UInt8) :
    compare (start ++ a) (start ++ b) = compare a b := by
  induction start with
  | nil => rfl
  | cons c start ih => simpa [List.compare_cons_cons] using ih

theorem ascending_rows (records : List Record) (tenant : Tenant) (recordType : RecordType) :
    Ascending ((rows records tenant recordType).map fun row => Utf8.encode row.id.text) := by
  have keys : ((byKey records).entries.map Prod.snd).Pairwise fun r s =>
      compare (keyBytes r) (keyBytes s) = .lt := by
    have ascending := (byKey records).ascending
    rw [Ascending, List.pairwise_map] at ascending
    rw [List.pairwise_map]
    apply ascending.imp_of_mem
    intro entry other member member' order
    rwa [(keyed_byKey records _ _ member).2, (keyed_byKey records _ _ member').2] at order
  rw [Ascending, List.pairwise_map]
  apply (keys.filter (Record.inTable tenant recordType)).imp_of_mem
  intro r s member member' order
  obtain ⟨rfl, rfl⟩ := Record.inTable_iff.mp (List.mem_filter.mp member).2
  obtain ⟨sameTenant, sameType⟩ := Record.inTable_iff.mp (List.mem_filter.mp member').2
  rwa [keyBytes, keyBytes, sameTenant, sameType, compare_append_left] at order

theorem nodup_rows (records : List Record) (tenant : Tenant) (recordType : RecordType) :
    (rows records tenant recordType).Nodup := by
  have ascending := ascending_rows records tenant recordType
  rw [Ascending, List.pairwise_map] at ascending
  apply ascending.imp
  rintro r _ order rfl
  simp at order

theorem all_attemptAll_empty (records : List Record) (tenant : Tenant) (recordType : RecordType) :
    all (Store.attemptAll empty records) tenant recordType =
      (rows records tenant recordType).mapM fun row => Record.parse (Utf8.encode row.text) := by
  have texts : (Store.attemptAll empty records).textsFrom (tableStart tenant recordType) =
      (rows records tenant recordType).map fun row => Utf8.encode row.text := by
    rw [textsFrom_eq_filter, holds_attemptAll_empty records, List.filter_map, List.map_map, rows,
      List.filter_map, List.map_map]
    have same : (byKey records).entries.filter
          ((fun entry : List UInt8 × List UInt8 =>
            (tableStart tenant recordType).isPrefixOf entry.1) ∘
              fun entry => (entry.1, Utf8.encode entry.2.text)) =
        (byKey records).entries.filter (Record.inTable tenant recordType ∘ Prod.snd) := by
      apply List.filter_congr
      rintro ⟨k, r⟩ member
      obtain ⟨storable, rfl⟩ := keyed_byKey records k r member
      rw [Bool.eq_iff_iff]
      exact List.isPrefixOf_iff_prefix.trans
        ((tableStart_isPrefix_keyBytes_iff storable).trans Record.inTable_iff.symm)
    rw [same]
    simp only [Function.comp_def]
  rw [all, texts, List.mapM_map]
  simp only [Function.comp_def]

end KeyedStore

end NaturalKey
