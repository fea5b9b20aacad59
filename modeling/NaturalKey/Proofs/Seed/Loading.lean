import NaturalKey.Proofs.Store.Rows
import NaturalKey.Proofs.Store.Run
import NaturalKey.Seed
import NaturalKey.Store

/-!
What a seed file leaves in a store. The rows that are records are added in their order, as in any
other run; the others only count among what is told. What a keyed store takes is decided by the
record alone, and of what it takes the last of each key stays; so loading the same rows once more
changes nothing and the same is told of it. A database is no different: it is a keyed store with a
log.
-/

set_option autoImplicit false

namespace NaturalKey.Seed

/-- The records among the outcomes of rows, in order. -/
def readable (rows : List (Except Fault Record)) : List Record :=
  rows.filterMap Except.toOption

@[simp]
theorem readable_error (fault : Fault) (rows : List (Except Fault Record)) :
    readable (.error fault :: rows) = readable rows := rfl

@[simp]
theorem readable_ok (record : Record) (rows : List (Except Fault Record)) :
    readable (.ok record :: rows) = record :: readable rows := rfl

theorem mem_readable_iff {rows : List (Except Fault Record)} {record : Record} :
    record ∈ readable rows ↔ .ok record ∈ rows := by
  rw [readable, List.mem_filterMap]
  constructor
  · rintro ⟨outcome, member, same⟩
    cases outcome with
    | error fault => cases same
    | ok found =>
      cases same
      exact member
  · intro member
    exact ⟨_, member, rfl⟩

section Stores

variable {σ : Type} [Store σ]

theorem Loading.store_add_error (loading : Loading σ) (fault : Fault) :
    (loading.add (.error fault)).store = loading.store := rfl

theorem Loading.store_add_ok (loading : Loading σ) (record : Record) :
    (loading.add (.ok record)).store = Store.attempt loading.store record := by
  rw [add, Store.attempt]
  cases Store.insert loading.store record <;> rfl

theorem Loading.store_foldl_add (loading : Loading σ) (rows : List (Except Fault Record)) :
    (rows.foldl add loading).store = Store.attemptAll loading.store (readable rows) := by
  induction rows generalizing loading with
  | nil => rfl
  | cons row rows ih =>
    rw [List.foldl_cons, ih]
    cases row with
    | error fault => rw [store_add_error, readable_error]
    | ok record => rw [store_add_ok, readable_ok, Store.attemptAll_cons]

theorem Loading.store_ofRows (store : σ) (rows : List (Except Fault Record)) :
    (ofRows store rows).store = Store.attemptAll store (readable rows) :=
  store_foldl_add _ rows

theorem result_load_of_missing (store : σ) {file : NamedSource} {error : OsError}
    (h : file.source = .missing error) : (load store file).result = .error (.unopened error) := by
  rw [load, h]
  rfl

theorem result_load_of_opens (store : σ) {file : NamedSource}
    (h : ∀ error, file.source ≠ .missing error) :
    (load store file).result = .ok (Store.attemptAll store (readable (rowsOf file.source))) := by
  rw [← Loading.store_ofRows]
  cases source : file.source with
  | missing error => exact absurd source (h error)
  | directory =>
    rw [load, source]
  | file bytes =>
    rw [load, source]

end Stores

end NaturalKey.Seed

namespace NaturalKey

/-! ### Adding records again -/

namespace KeyedStore

def entryOf (record : Record) : List UInt8 × List UInt8 :=
  (keyBytes record, Utf8.encode record.text)

theorem texts_attemptAll (store : KeyedStore) (records : List Record) :
    (Store.attemptAll store records).texts =
      store.texts.putAll ((Store.accepted store records).map entryOf) := by
  induction records generalizing store with
  | nil => rfl
  | cons record records ih =>
    rw [Store.attemptAll_cons, ih, accepted_eq_filter, accepted_eq_filter]
    by_cases storable : Storable record
    · rw [attempt_of_storable storable, List.filter_cons_of_pos (by simpa using storable),
        List.map_cons, SortedMap.putAll_cons, entryOf]
    · rw [attempt_of_not_storable storable, List.filter_cons_of_neg (by simpa using storable)]

theorem attemptAll_again (store : KeyedStore) (records : List Record) :
    Store.attemptAll (Store.attemptAll store records) records = Store.attemptAll store records := by
  have texts : (Store.attemptAll (Store.attemptAll store records) records).texts =
      (Store.attemptAll store records).texts := by
    rw [texts_attemptAll (Store.attemptAll store records), texts_attemptAll, accepted_eq_filter,
      accepted_eq_filter, SortedMap.putAll_putAll]
  exact congrArg KeyedStore.mk texts

end KeyedStore

namespace Database

open KeyedStore (Storable)

theorem insert_of_storable {record : Record} (h : Storable record) (database : Database) :
    Store.insert database record =
      .ok { database with store := Store.attempt database.store record, isLogged := true } := by
  show (database.store.insert record).map _ = _
  rw [KeyedStore.attempt_of_storable h, KeyedStore.insert_of_storable h]
  rfl

theorem insert_of_not_storable {record : Record} (h : ¬Storable record) (database : Database) :
    Store.insert database record = .error (.invalid .reservedCharacter) := by
  show (database.store.insert record).map _ = _
  rw [KeyedStore.insert_of_not_storable h]
  rfl

/-- Adding records to a database adds them to its store; whether anything was taken is all that its
log tells. -/
theorem attemptAll_eq (database : Database) (records : List Record) :
    Store.attemptAll database records =
      { database with
        store := Store.attemptAll database.store records
        isLogged := database.isLogged || records.any fun record => decide (Storable record) } := by
  induction records generalizing database with
  | nil => simp
  | cons record records ih =>
    rw [Store.attemptAll_cons, ih, Store.attemptAll_cons, List.any_cons]
    by_cases storable : Storable record
    · rw [Store.attempt_of_insert_ok (insert_of_storable storable database)]
      simp [storable]
    · rw [Store.attempt_of_insert_error (insert_of_not_storable storable database),
        KeyedStore.attempt_of_not_storable storable]
      simp [storable]

@[simp]
theorem store_attemptAll (database : Database) (records : List Record) :
    (Store.attemptAll database records).store = Store.attemptAll database.store records := by
  rw [attemptAll_eq]

theorem attemptAll_again (database : Database) (records : List Record) :
    Store.attemptAll (Store.attemptAll database records) records =
      Store.attemptAll database records := by
  rw [attemptAll_eq, attemptAll_eq, KeyedStore.attemptAll_again, Bool.or_assoc, Bool.or_self]

end Database

/-! ### Loading rows again -/

namespace Seed

variable {σ : Type}

/-- As many records were taken, and the same was told. -/
def Loading.ToldAlike (first second : Loading σ) : Prop :=
  first.loaded = second.loaded ∧ first.events = second.events

theorem Loading.eq_of_toldAlike {first second : Loading σ} (told : first.ToldAlike second)
    (store : first.store = second.store) : first = second := by
  obtain ⟨loaded, events⟩ := told
  cases first
  cases second
  congr

section Stores

variable [Store σ]

/-- What a store refuses, and why, does not depend on what it holds. -/
def RefusesAlike (σ : Type) [Store σ] : Prop :=
  ∀ (first second : σ) (record : Record) (fault : Fault),
    Store.insert first record = .error fault → Store.insert second record = .error fault

theorem Loading.ToldAlike.add (alike : RefusesAlike σ) {first second : Loading σ}
    (h : first.ToldAlike second) (row : Except Fault Record) :
    (first.add row).ToldAlike (second.add row) := by
  obtain ⟨loaded, events⟩ := h
  cases row with
  | error fault => exact ⟨loaded, congrArg (· ++ _) events⟩
  | ok record =>
    rw [Loading.add, Loading.add]
    cases inserted : Store.insert first.store record with
    | error fault =>
      rw [alike _ second.store record fault inserted]
      exact ⟨loaded, congrArg (· ++ _) events⟩
    | ok next =>
      cases inserted' : Store.insert second.store record with
      | error fault =>
        have refused := alike _ first.store record fault inserted'
        rw [inserted] at refused
        cases refused
      | ok next' => exact ⟨congrArg (· + 1) loaded, events⟩

theorem Loading.toldAlike_ofRows (alike : RefusesAlike σ) (first second : σ)
    (rows : List (Except Fault Record)) : (ofRows first rows).ToldAlike (ofRows second rows) := by
  have run (rows : List (Except Fault Record)) {a b : Loading σ} (h : a.ToldAlike b) :
      (rows.foldl Loading.add a).ToldAlike (rows.foldl Loading.add b) := by
    induction rows generalizing a b with
    | nil => exact h
    | cons row rows ih => exact ih (h.add alike row)
  exact run rows ⟨rfl, rfl⟩

theorem Loading.ofRows_again (alike : RefusesAlike σ) {store : σ}
    {rows : List (Except Fault Record)}
    (again : Store.attemptAll (Store.attemptAll store (readable rows)) (readable rows) =
      Store.attemptAll store (readable rows)) :
    ofRows (ofRows store rows).store rows = ofRows store rows := by
  apply eq_of_toldAlike (toldAlike_ofRows alike _ _ rows)
  rw [store_ofRows, store_ofRows, again]

theorem refusesAlike_of_storable
    (taken : ∀ (store : σ) record, KeyedStore.Storable record →
      ∃ next, Store.insert store record = .ok next)
    (refused : ∀ (store : σ) record, ¬KeyedStore.Storable record →
      Store.insert store record = .error (.invalid .reservedCharacter)) : RefusesAlike σ := by
  intro first second record fault failed
  by_cases storable : KeyedStore.Storable record
  · obtain ⟨next, inserted⟩ := taken first record storable
    rw [inserted] at failed
    cases failed
  · rw [← failed, refused first record storable, refused second record storable]

end Stores

end Seed

theorem KeyedStore.ofRows_again (store : KeyedStore) (rows : List (Except Fault Record)) :
    Seed.Loading.ofRows (Seed.Loading.ofRows store rows).store rows =
      Seed.Loading.ofRows store rows := by
  have alike : Seed.RefusesAlike KeyedStore :=
    Seed.refusesAlike_of_storable (fun store _ storable => ⟨_, insert_of_storable storable store⟩)
      fun store _ reserved => insert_of_not_storable reserved store
  exact Seed.Loading.ofRows_again alike (attemptAll_again store _)

theorem Database.ofRows_again (database : Database) (rows : List (Except Fault Record)) :
    Seed.Loading.ofRows (Seed.Loading.ofRows database rows).store rows =
      Seed.Loading.ofRows database rows := by
  have alike : Seed.RefusesAlike Database :=
    Seed.refusesAlike_of_storable
      (fun database _ storable => ⟨_, insert_of_storable storable database⟩)
      fun database _ reserved => insert_of_not_storable reserved database
  exact Seed.Loading.ofRows_again alike (attemptAll_again database _)

end NaturalKey
