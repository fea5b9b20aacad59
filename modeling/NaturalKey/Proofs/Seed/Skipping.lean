import NaturalKey.Proofs.Seed.Records
import NaturalKey.Seed
import NaturalKey.Store

/-!
Rows that are left out of what is loaded. A row is left out where it is no record, and where the
store refuses its record; it is told of, and that is all that comes of it: without these rows the
file would be loaded to the same effect.
-/

set_option autoImplicit false

namespace NaturalKey.Seed

variable {σ ρ : Type} [Store σ]

/-- Rows with their outcomes, loaded one after another into a store: what is told of those that are
left out, the rows that are kept, and the store at the end. -/
inductive Loads : σ → List (ρ × Except Fault Record) → List Event → List ρ → σ → Prop
  | done (store : σ) : Loads store [] [] [] store
  | unreadable {store last : σ} {row : ρ} {fault : Fault} {rows : List (ρ × Except Fault Record)}
      {warnings : List Event} {kept : List ρ} :
      Loads store rows warnings kept last →
      Loads store ((row, .error fault) :: rows) (.rowUnreadable fault :: warnings) kept last
  | unstorable {store last : σ} {row : ρ} {record : Record} {fault : Fault}
      {rows : List (ρ × Except Fault Record)} {warnings : List Event} {kept : List ρ} :
      Store.insert store record = .error fault → Loads store rows warnings kept last →
      Loads store ((row, .ok record) :: rows) (.rowUnstorable fault :: warnings) kept last
  | stored {store next last : σ} {row : ρ} {record : Record}
      {rows : List (ρ × Except Fault Record)} {warnings : List Event} {kept : List ρ} :
      Store.insert store record = .ok next → Loads next rows warnings kept last →
      Loads store ((row, .ok record) :: rows) warnings (row :: kept) last

theorem exists_loads (store : σ) (rows : List (ρ × Except Fault Record)) :
    ∃ warnings kept last, Loads store rows warnings kept last := by
  induction rows generalizing store with
  | nil => exact ⟨_, _, _, .done store⟩
  | cons entry rows ih =>
    obtain ⟨row, outcome⟩ := entry
    cases outcome with
    | error fault =>
      obtain ⟨warnings, kept, last, others⟩ := ih store
      exact ⟨_, _, _, .unreadable others⟩
    | ok record =>
      cases inserted : Store.insert store record with
      | error fault =>
        obtain ⟨warnings, kept, last, others⟩ := ih store
        exact ⟨_, _, _, .unstorable inserted others⟩
      | ok next =>
        obtain ⟨warnings, kept, last, others⟩ := ih next
        exact ⟨_, _, _, .stored inserted others⟩

namespace Loads

variable {store last : σ} {rows : List (ρ × Except Fault Record)} {warnings : List Event}
  {kept : List ρ}

theorem length_eq (h : Loads store rows warnings kept last) :
    kept.length + warnings.length = rows.length := by
  induction h with
  | done => rfl
  | unreadable _ ih => simp only [List.length_cons, ← ih, Nat.add_assoc]
  | unstorable _ _ ih => simp only [List.length_cons, ← ih, Nat.add_assoc]
  | stored _ _ ih => simp only [List.length_cons, ← ih, Nat.add_right_comm]

theorem level_eq_warn (h : Loads store rows warnings kept last) :
    ∀ event ∈ warnings, event.level = .warn := by
  induction h with
  | done =>
    intro event member
    cases member
  | unreadable _ ih => exact List.forall_mem_cons.mpr ⟨rfl, ih⟩
  | unstorable _ _ ih => exact List.forall_mem_cons.mpr ⟨rfl, ih⟩
  | stored _ _ ih => exact ih

theorem kept_sublist (h : Loads store rows warnings kept last) :
    kept.Sublist (rows.map Prod.fst) := by
  induction h with
  | done => exact .slnil
  | unreadable _ ih => exact ih.cons _
  | unstorable _ _ ih => exact ih.cons _
  | stored _ _ ih => exact ih.cons_cons _

theorem foldl_add (h : Loads store rows warnings kept last) (loaded : Nat) (events : List Event) :
    (rows.map Prod.snd).foldl Loading.add ⟨store, loaded, events⟩ =
      ⟨last, loaded + kept.length, events ++ warnings⟩ := by
  induction h generalizing loaded events with
  | done => simp
  | unreadable _ ih => simp [Loading.add, ih]
  | unstorable refused _ ih => simp [Loading.add, refused, ih]
  | stored taken _ ih => simp [Loading.add, taken, ih, Nat.add_assoc, Nat.add_comm 1]

/-- The rows that are kept are all taken if there are no others, wherever they stand then. -/
theorem foldl_add_kept {rows : List (List (List UInt8) × Except Fault Record)}
    {kept : List (List (List UInt8))} {header : Csv.Row} (h : Loads store rows warnings kept last)
    (anywhere : ∀ row record, (row, Except.ok record) ∈ rows → ∀ csv : Csv.Row, csv.fields = row →
      recordOfRow header.names? csv = .ok record)
    {below : List Csv.Row} (same : below.map Csv.Row.fields = kept) (loaded : Nat) :
    (below.map (recordOfRow header.names?)).foldl Loading.add ⟨store, loaded, []⟩ =
      ⟨last, loaded + kept.length, []⟩ := by
  induction h generalizing below loaded with
  | done =>
    obtain rfl := List.map_eq_nil_iff.mp same
    rfl
  | unreadable _ ih =>
    exact ih (fun row record member => anywhere row record (List.mem_cons_of_mem _ member)) same
      loaded
  | unstorable _ _ ih =>
    exact ih (fun row record member => anywhere row record (List.mem_cons_of_mem _ member)) same
      loaded
  | stored taken _ ih =>
    obtain ⟨csv, others, rfl, first, rest⟩ := List.map_eq_cons_iff.mp same
    have read := anywhere _ _ List.mem_cons_self csv first
    have stored := ih
      (fun row record member => anywhere row record (List.mem_cons_of_mem _ member)) rest
      (loaded + 1)
    rw [List.map_cons, read, List.foldl_cons]
    simp only [Loading.add, taken]
    rw [stored, List.length_cons, Nat.add_assoc, Nat.add_comm 1]

end Loads

/-- Every row of a file is kept or told of in one warning. The store that is left, and the number of
rows that are loaded, are those of the file that has the rows that are kept and no others. -/
theorem load_fileOf {rows : List (List (List UInt8))} (nonempty : ∀ row ∈ rows, row ≠ [])
    (store : σ) (path : String) :
    (records (fileOf rows)).length = rows.length ∧ ∃ warnings kept last,
      Loads store (rows.zip (records (fileOf rows))) warnings kept last ∧
      load store ⟨path, .file (fileOf rows)⟩ =
        ⟨warnings ++ [.seeded kept.length path], .ok last⟩ ∧
      (∀ event ∈ warnings, event.level = .warn) ∧ kept.length + warnings.length = rows.length ∧
      load store ⟨path, .file (fileOf kept)⟩ = ⟨[.seeded kept.length path], .ok last⟩ := by
  obtain ⟨below, fields, outcomes⟩ := exists_records_fileOf nonempty
  have length : (records (fileOf rows)).length = rows.length := by
    rw [outcomes, ← fields, List.length_map, List.length_map]
  obtain ⟨warnings, kept, last, loads⟩ := exists_loads store (rows.zip (records (fileOf rows)))
  have sublist := loads.kept_sublist
  have told := loads.foldl_add 0 []
  have count := loads.length_eq
  rw [List.map_fst_zip (Nat.le_of_eq length.symm)] at sublist
  rw [List.map_snd_zip (Nat.le_of_eq length), Nat.zero_add, List.nil_append] at told
  rw [List.length_zip, length, Nat.min_self] at count
  have anywhere : ∀ row record, (row, Except.ok record) ∈ rows.zip (records (fileOf rows)) →
      ∀ csv : Csv.Row, csv.fields = row → recordOfRow headerRow.names? csv = .ok record := by
    intro row record member csv same
    rw [outcomes, ← fields, List.zip_map', List.mem_map] at member
    obtain ⟨other, -, equal⟩ := member
    obtain ⟨rfl, made⟩ := Prod.mk.inj equal
    exact recordOfRow_of_fields made same.symm
  have keptNonempty : ∀ row ∈ kept, row ≠ [] :=
    fun row member => nonempty row (sublist.subset member)
  obtain ⟨keptBelow, keptFields, keptOutcomes⟩ := exists_records_fileOf keptNonempty
  have alone := loads.foldl_add_kept anywhere keptFields 0
  rw [← keptOutcomes, Nat.zero_add] at alone
  refine ⟨length, warnings, kept, last, loads, ?_, loads.level_eq_warn, count, ?_⟩
  · have loading : Loading.ofRows store (records (fileOf rows)) = _ := told
    simp only [load, rowsOf, loading]
  · have loading : Loading.ofRows store (records (fileOf kept)) = _ := alone
    simp only [load, rowsOf, loading]
    rfl

/-- A user among rows that are not kept: one that is too short, one without a key, one with
attributes that are no JSON, one with a blank type and one with an id that cannot be part of a key.
-/
def userAmongOthers : List (List (List UInt8)) :=
  [["", "User"], ["", "User", " ", "u-1", ""], ["", "User", "user_id", "u-2", "["],
    ["", "User", "user_id", "u-3", "\x7b\x7d"], ["", "\t", "user_id", "u-4", ""],
    ["", "User", "user_id", "u\x1f5", ""]].map (List.map Utf8.encode)

theorem load_userAmongOthers :
    (∀ row ∈ userAmongOthers, row ≠ []) ∧ ∃ warnings last,
      load KeyedStore.empty ⟨"seed.csv", .file (fileOf userAmongOthers)⟩ =
        ⟨warnings ++ [.seeded 1 "seed.csv"], .ok last⟩ ∧
      warnings.length = 5 ∧
      ∃ kept, load KeyedStore.empty ⟨"seed.csv", .file (fileOf kept)⟩ =
        ⟨[.seeded 1 "seed.csv"], .ok last⟩ := by
  have nonempty : ∀ row ∈ userAmongOthers, row ≠ [] := by decide
  obtain ⟨length, warnings, kept, last, loads, loaded, -, count, alone⟩ :=
    load_fileOf nonempty KeyedStore.empty "seed.csv"
  have one : (Loading.ofRows KeyedStore.empty (records (fileOf userAmongOthers))).loaded = 1 := by
    decide +kernel
  have told := loads.foldl_add 0 []
  rw [List.map_snd_zip (Nat.le_of_eq length)] at told
  have keptOne : kept.length = 1 := by
    have same := congrArg Loading.loaded told
    rw [Nat.zero_add] at same
    exact same.symm.trans one
  have rows : userAmongOthers.length = 6 := rfl
  rw [keptOne] at loaded alone count
  exact ⟨nonempty, warnings, last, loaded, by omega, kept, alone⟩

end NaturalKey.Seed
