import NaturalKey.Proofs.SortedMap
import NaturalKey.Proofs.Store.Run
import NaturalKey.Proofs.Text.Utf8
import NaturalKey.Store

/-!
Keys of records. The separator stands exactly twice in a key, so a key can be taken apart in one way
only, and it starts as the keys of a table do only if the record belongs to the table. In the order
of the keys those with a common start stand together.
-/

set_option autoImplicit false

namespace NaturalKey.KeyedStore

/-- No part of the key of the record contains the separator. -/
def Storable (record : Record) : Prop :=
  separator ∉ Utf8.encode record.tenant.text ∧ separator ∉ Utf8.encode record.recordType.text ∧
    separator ∉ Utf8.encode record.id.text

instance (record : Record) : Decidable (Storable record) :=
  inferInstanceAs (Decidable (_ ∧ _ ∧ _))

theorem storable_iff_of_sameKey {r s : Record} (h : r.SameKey s) : Storable r ↔ Storable s := by
  obtain ⟨tenant, recordType, id⟩ := h
  rw [Storable, Storable, tenant, recordType, id]

/-- The parts of a key in a row, whether or not they may be taken apart again. -/
def keyBytes (record : Record) : List UInt8 :=
  tableStart record.tenant record.recordType ++ Utf8.encode record.id.text

theorem any_contains_separator_iff (record : Record) :
    ([record.tenant.text, record.recordType.text, record.id.text].any fun part =>
      (Utf8.encode part).contains separator) = true ↔ ¬Storable record := by
  simp only [List.any_cons, List.any_nil, Bool.or_false, Bool.or_eq_true, List.contains_iff_mem,
    Storable]
  grind

theorem key_of_storable {record : Record} (h : Storable record) :
    key record = .ok (keyBytes record) := by
  have free := mt (any_contains_separator_iff record).mp (not_not_intro h)
  simp only [key, if_neg free, keyBytes]

theorem key_of_not_storable {record : Record} (h : ¬Storable record) :
    key record = .error (.invalid .reservedCharacter) := by
  have found := (any_contains_separator_iff record).mpr h
  simp only [key, if_pos found]

theorem key_eq_ok_iff {record : Record} {bytes : List UInt8} :
    key record = .ok bytes ↔ Storable record ∧ bytes = keyBytes record := by
  by_cases storable : Storable record
  · rw [key_of_storable storable, Except.ok.injEq, eq_comm]
    exact (and_iff_right storable).symm
  · rw [key_of_not_storable storable]
    simp [storable]

/-! ### Taking keys apart -/

theorem append_separator_inj {a b x y : List UInt8} (ha : separator ∉ a) (hb : separator ∉ b)
    (h : a ++ separator :: x = b ++ separator :: y) : a = b ∧ x = y := by
  induction a generalizing b with
  | nil =>
    cases b with
    | nil => exact ⟨rfl, List.tail_eq_of_cons_eq h⟩
    | cons c b =>
      obtain ⟨rfl, -⟩ := List.cons.inj h
      exact absurd List.mem_cons_self hb
  | cons c a ih =>
    cases b with
    | nil =>
      obtain ⟨rfl, -⟩ := List.cons.inj h
      exact absurd List.mem_cons_self ha
    | cons d b =>
      obtain ⟨rfl, others⟩ := List.cons.inj h
      obtain ⟨rfl, rfl⟩ := ih (List.not_mem_of_not_mem_cons ha) (List.not_mem_of_not_mem_cons hb)
        others
      exact ⟨rfl, rfl⟩

theorem tableStart_append (tenant : Tenant) (recordType : RecordType) (rest : List UInt8) :
    tableStart tenant recordType ++ rest =
      Utf8.encode tenant.text ++
        separator :: (Utf8.encode recordType.text ++ separator :: rest) := by
  simp [tableStart]

theorem count_keyBytes {record : Record} (h : Storable record) :
    (keyBytes record).count separator = 2 := by
  obtain ⟨tenant, recordType, id⟩ := h
  simp only [keyBytes, tableStart_append, List.count_append, List.count_cons_self,
    List.count_eq_zero_of_not_mem tenant, List.count_eq_zero_of_not_mem recordType,
    List.count_eq_zero_of_not_mem id]

/-- What goes on the start of a table to the key of a record is the id, and the table is its own. -/
theorem keyBytes_eq_tableStart_append_iff {record : Record} (h : Storable record)
    {tenant : Tenant} {recordType : RecordType} {rest : List UInt8} :
    keyBytes record = tableStart tenant recordType ++ rest ↔
      record.tenant = tenant ∧ record.recordType = recordType ∧
        Utf8.encode record.id.text = rest := by
  constructor
  · intro equal
    -- the separators of the start use up those of the key, so the tags of the table hold none
    have count := count_keyBytes h
    rw [equal, tableStart_append] at count
    simp only [List.count_append, List.count_cons_self] at count
    have freeTenant : separator ∉ Utf8.encode tenant.text := List.count_eq_zero.mp (by omega)
    have freeType : separator ∉ Utf8.encode recordType.text := List.count_eq_zero.mp (by omega)
    rw [keyBytes, tableStart_append, tableStart_append] at equal
    obtain ⟨sameTenant, others⟩ := append_separator_inj h.1 freeTenant equal
    obtain ⟨sameType, sameId⟩ := append_separator_inj h.2.1 freeType others
    exact ⟨Tag.ext_text (Utf8.encode_injective sameTenant),
      Tag.ext_text (Utf8.encode_injective sameType), sameId⟩
  · rintro ⟨rfl, rfl, rfl⟩
    rfl

/-- Only records of a table have keys that start like those of the table, whatever the tags of the
table contain. -/
theorem tableStart_isPrefix_keyBytes_iff {record : Record} (h : Storable record)
    {tenant : Tenant} {recordType : RecordType} :
    (tableStart tenant recordType).IsPrefix (keyBytes record) ↔
      record.tenant = tenant ∧ record.recordType = recordType := by
  constructor
  · rintro ⟨rest, equal⟩
    obtain ⟨sameTenant, sameType, -⟩ := (keyBytes_eq_tableStart_append_iff h).mp equal.symm
    exact ⟨sameTenant, sameType⟩
  · rintro ⟨rfl, rfl⟩
    exact ⟨_, rfl⟩

theorem keyBytes_inj {r s : Record} (h : Storable r) : keyBytes r = keyBytes s ↔ r.SameKey s := by
  rw [keyBytes.eq_1 s, keyBytes_eq_tableStart_append_iff h, Record.SameKey]
  constructor
  · rintro ⟨tenant, recordType, id⟩
    exact ⟨tenant, recordType, Tag.ext_text (Utf8.encode_injective id)⟩
  · rintro ⟨tenant, recordType, id⟩
    exact ⟨tenant, recordType, by rw [id]⟩

/-- A key tells whose it is. Exactly the records without the separator in their parts have a key,
two of them share it if and only if they have the same tenant, type and id, and it starts as the
keys of a table do if and only if the record belongs to the table, whatever the tags of the table
contain. -/
theorem key_exact :
    (∀ r, (∃ bytes, key r = .ok bytes) ↔ Storable r) ∧
    (∀ r s bytes other, key r = .ok bytes → key s = .ok other → (bytes = other ↔ r.SameKey s)) ∧
    ∀ r bytes, key r = .ok bytes → ∀ tenant recordType,
      (tableStart tenant recordType).IsPrefix bytes ↔
        r.tenant = tenant ∧ r.recordType = recordType := by
  refine ⟨?_, ?_, ?_⟩
  · intro r
    constructor
    · rintro ⟨bytes, made⟩
      exact (key_eq_ok_iff.mp made).1
    · intro storable
      exact ⟨_, key_of_storable storable⟩
  · intro r s bytes other made made'
    obtain ⟨storable, rfl⟩ := key_eq_ok_iff.mp made
    obtain ⟨-, rfl⟩ := key_eq_ok_iff.mp made'
    exact keyBytes_inj storable
  · intro r bytes made tenant recordType
    obtain ⟨storable, rfl⟩ := key_eq_ok_iff.mp made
    exact tableStart_isPrefix_keyBytes_iff storable

/-- Neither a type that goes on after `User` nor a tenant that spells the start of the key, the
separator included, is taken for the table of a user. -/
theorem key_exact_users :
    let user := Record.user ⟨"u-1", by decide⟩
    let guest : Record := { user with recordType := ⟨"UserGuest", by decide⟩ }
    ∃ bytes other, key user = .ok bytes ∧ key guest = .ok other ∧ bytes ≠ other ∧
      (tableStart Tenant.default ⟨"User", isBlank_user⟩).IsPrefix bytes ∧
      ¬(tableStart Tenant.default ⟨"User", isBlank_user⟩).IsPrefix other ∧
      ¬(tableStart ⟨"default\x1fUser", by decide⟩ ⟨"u-1", by decide⟩).IsPrefix bytes := by
  intro user guest
  obtain ⟨accepted, injective, starts⟩ := key_exact
  obtain ⟨bytes, made⟩ := (accepted user).mpr (by decide)
  obtain ⟨other, made'⟩ := (accepted guest).mpr (by decide)
  have differ : user.recordType ≠ guest.recordType := by decide
  refine ⟨bytes, other, made, made', ?_, ?_, ?_, ?_⟩
  · intro same
    exact differ ((injective user guest bytes other made made').mp same).2.1
  · exact (starts user bytes made _ _).mpr ⟨rfl, rfl⟩
  · intro shared
    exact differ ((starts guest other made' _ _).mp shared).2.symm
  · intro shared
    have same := ((starts user bytes made _ _).mp shared).1
    exact absurd same (by decide)

/-! ### The order of keys -/

theorem compare_append_right_ne_lt (start rest : List UInt8) :
    compare (start ++ rest) start ≠ .lt := by
  induction start with
  | nil => cases rest <;> simp
  | cons b start ih => simpa [List.compare_cons_cons] using ih

theorem isPrefix_of_between {start k k' : List UInt8} (above : compare k start ≠ .lt)
    (below : compare k k' = .lt) (h : start.IsPrefix k') : start.IsPrefix k := by
  obtain ⟨rest, rfl⟩ := h
  induction start generalizing k with
  | nil => exact List.nil_prefix
  | cons b start ih =>
    cases k with
    | nil => simp at above
    | cons c k =>
      rw [List.compare_cons_cons] at above
      rw [List.cons_append, List.compare_cons_cons] at below
      cases order : compare c b with
      | lt => simp [order] at above
      | gt => simp [order] at below
      | eq =>
        obtain rfl : c = b := Std.LawfulEqOrd.eq_of_compare order
        rw [order] at above below
        obtain ⟨rest', equal⟩ := ih above below
        exact ⟨rest', by rw [List.cons_append, equal]⟩

/-- From its first key on a start is shared as long as it can be, so all that share it are found. -/
theorem takeWhile_eq_filter {β : Type} {start : List UInt8} {entries : List (List UInt8 × β)}
    (ascending : Ascending (entries.map Prod.fst))
    (reached : ∀ entry ∈ entries, compare entry.1 start ≠ .lt) :
    entries.takeWhile (fun entry => start.isPrefixOf entry.1) =
      entries.filter fun entry => start.isPrefixOf entry.1 := by
  induction entries with
  | nil => rfl
  | cons entry rest ih =>
    have others := ih ascending.tail fun other member =>
      reached other (List.mem_cons_of_mem _ member)
    cases shared : start.isPrefixOf entry.1 with
    | true => rw [List.takeWhile_cons, List.filter_cons, if_pos shared, if_pos shared, others]
    | false =>
      have none : ∀ other ∈ rest, ¬start.isPrefixOf other.1 = true := by
        intro other member also
        have below := ascending.head_lt (List.mem_map_of_mem member)
        have prefixed := isPrefix_of_between (reached entry List.mem_cons_self) below
          (List.isPrefixOf_iff_prefix.mp also)
        rw [List.isPrefixOf_iff_prefix.mpr prefixed] at shared
        exact absurd shared (by decide)
      rw [List.takeWhile_cons, List.filter_cons, shared, List.filter_eq_nil_iff.mpr none]
      rfl

theorem filter_dropWhile {β : Type} {start : List UInt8} (entries : List (List UInt8 × β)) :
    (entries.dropWhile fun entry => compare entry.1 start == .lt).filter
        (fun entry => start.isPrefixOf entry.1) =
      entries.filter fun entry => start.isPrefixOf entry.1 := by
  induction entries with
  | nil => rfl
  | cons entry rest ih =>
    cases before : compare entry.1 start == .lt with
    | true =>
      have foreign : ¬start.isPrefixOf entry.1 = true := by
        intro shared
        obtain ⟨more, equal⟩ := List.isPrefixOf_iff_prefix.mp shared
        rw [← equal] at before
        exact compare_append_right_ne_lt start more (beq_iff_eq.mp before)
      rw [List.dropWhile_cons, if_pos before, List.filter_cons, if_neg foreign, ih]
    | false => simp only [List.dropWhile_cons, before, Bool.false_eq_true, if_false]

theorem reached_dropWhile {β : Type} (start : List UInt8) {entries : List (List UInt8 × β)}
    (ascending : Ascending (entries.map Prod.fst)) :
    ∀ entry ∈ entries.dropWhile (fun entry => compare entry.1 start == .lt),
      compare entry.1 start ≠ .lt := by
  induction entries with
  | nil => simp
  | cons entry rest ih =>
    cases before : compare entry.1 start == .lt with
    | true =>
      rw [List.dropWhile_cons, if_pos before]
      exact ih ascending.tail
    | false =>
      have first : compare entry.1 start ≠ .lt := by simpa using before
      simp only [List.dropWhile_cons, before, Bool.false_eq_true, if_false]
      intro other member lower
      rcases List.mem_cons.mp member with rfl | member
      · exact first lower
      · exact first (Std.TransCmp.lt_trans (ascending.head_lt (List.mem_map_of_mem member)) lower)

theorem textsFrom_eq_filter (store : KeyedStore) (start : List UInt8) :
    store.textsFrom start =
      (store.texts.entries.filter fun entry => start.isPrefixOf entry.1).map Prod.snd := by
  have ascending := store.texts.ascending
  have reached := reached_dropWhile start ascending
  have sub : ((store.texts.entries.dropWhile fun entry =>
      compare entry.1 start == .lt).map Prod.fst).Sublist (store.texts.entries.map Prod.fst) :=
    (List.dropWhile_sublist _).map _
  rw [textsFrom, takeWhile_eq_filter (ascending.sublist sub) reached, filter_dropWhile]

end NaturalKey.KeyedStore
