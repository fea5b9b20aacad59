import NaturalKey.Directory
import NaturalKey.Proofs.Outcome

/-!
What is at a place of a directory after something was written there, taken away, or done elsewhere,
and which place a path leads to.
-/

set_option autoImplicit false

namespace NaturalKey

theorem Path.problem?_eq_none_iff {path : String} :
    problem? path = none ↔
      '\x00' ∉ path.toList ∧ path ≠ "" ∧ path.utf8ByteSize < sizeLimit := by
  simp only [problem?, List.contains_iff_mem, String.isEmpty_iff, ← Nat.not_lt]
  split
  · simp [*]
  · split
    · simp [*]
    · split <;> simp_all

namespace Directory

variable {directory : Directory} {place other : Place}

section Entries

variable {α : Type} {entries : List (Place × α)}

theorem find?_filter_places (keep : Place → Bool) (h : keep other = true) :
    (entries.filter fun entry => keep entry.1).find? (fun entry => entry.1 == other) =
      entries.find? fun entry => entry.1 == other := by
  rw [List.find?_filter]
  congr 1
  funext entry
  by_cases here : entry.1 = other
  · simp [here, h]
  · simp [here]

theorem find?_filter_ne (entries : List (Place × α)) (place : Place) :
    (entries.filter (·.1 != place)).find? (fun entry => entry.1 == place) = none := by
  simp [List.find?_eq_none]

end Entries

/-! ### Files -/

theorem file?_write_self (directory : Directory) (place : Place) (bytes : List UInt8) :
    (directory.write place bytes).file? place = some bytes := by
  simp [file?, write]

theorem file?_remove_of_ne (h : other ≠ place) :
    (directory.remove place).file? other = directory.file? other := by
  rw [file?, file?, remove, ← List.filter_reverse]
  exact congrArg _ (find?_filter_places (· != place) (bne_iff_ne.mpr h))

theorem file?_write_of_ne (h : other ≠ place) (bytes : List UInt8) :
    (directory.write place bytes).file? other = directory.file? other := by
  have last : (directory.write place bytes).files.reverse =
      (place, bytes) :: (directory.remove place).files.reverse := by
    rw [write, List.reverse_append]
    rfl
  rw [file?, last, List.find?_cons_of_neg (by simpa using h.symm)]
  exact file?_remove_of_ne h

theorem file?_removeAll_of_not_isPrefixOf (h : place.isPrefixOf other = false) :
    (directory.removeAll place).file? other = directory.file? other := by
  rw [file?, file?, removeAll, ← List.filter_reverse]
  exact congrArg _ (find?_filter_places (!place.isPrefixOf ·) (by simpa using h))

/-! ### Databases -/

theorem database?_putDatabase_self (directory : Directory) (place : Place) (database : Database) :
    (directory.putDatabase place database).database? place = some database := by
  rw [database?, putDatabase, List.find?_append, find?_filter_ne]
  simp

theorem database?_removeAll_of_not_isPrefixOf (h : place.isPrefixOf other = false) :
    (directory.removeAll place).database? other = directory.database? other := by
  rw [database?, database?, removeAll]
  exact congrArg _ (find?_filter_places (!place.isPrefixOf ·) (by simpa using h))

theorem file?_putDatabase_of_ne {database : Database}
    (h : other ≠ place ++ [Database.FileName.logOf database.log]) :
    (directory.putDatabase place database).file? other = directory.file? other := by
  rw [putDatabase]
  split
  · exact file?_write_of_ne h _
  · rfl

/-! ### Places -/

theorem eq_enter_of_go {name : String} {next : Place} (h : directory.go place name = .ok next) :
    next = place.enter name := by
  simp only [go] at h
  split at h
  · cases h
  · split at h
    · cases h
    · split at h
      · exact (Except.ok.inj h).symm
      · cases h

/-- A path that leads anywhere leads where its names say, whatever is there. -/
theorem eq_foldl_enter_of_find {path : String} (h : directory.find path = .ok place) :
    place = (Path.names path).foldl Place.enter (Path.start path) := by
  have walk (names : List String) (start : Place)
      (found : names.foldlM directory.go start = .ok place) :
      place = names.foldl Place.enter start := by
    induction names generalizing start with
    | nil => exact (Except.ok.inj found).symm
    | cons name names ih =>
      rw [List.foldlM_cons] at found
      cases step : directory.go start name with
      | error error =>
        rw [step] at found
        cases found
      | ok next =>
        rw [step] at found
        rw [List.foldl_cons, ← eq_enter_of_go step]
        exact ih next found
  rw [find] at h
  split at h
  · cases h
  · exact walk _ _ h

/-! ### Making directories -/

structure SameFiles (before after : Directory) : Prop where
  files : after.files = before.files
  databases : after.databases = before.databases

theorem SameFiles.file?_eq {before after : Directory} (h : SameFiles before after) (place : Place) :
    after.file? place = before.file? place := by
  rw [file?, file?, h.files]

theorem SameFiles.database?_eq {before after : Directory} (h : SameFiles before after)
    (place : Place) : after.database? place = before.database? place := by
  rw [database?, database?, h.databases]

theorem SameFiles.trans {before middle after : Directory} (h : SameFiles before middle)
    (h' : SameFiles middle after) : SameFiles before after :=
  ⟨h'.files.trans h.files, h'.databases.trans h.databases⟩

theorem SameFiles.refl (directory : Directory) : SameFiles directory directory :=
  ⟨rfl, rfl⟩

theorem sameFiles_of_make {path : String} {after : Directory}
    (h : directory.make path = .ok after) : SameFiles directory after := by
  rw [make] at h
  split at h
  · cases h
  · obtain ⟨outer, -, made⟩ := bind_eq_ok.mp h
    split at made
    · cases made
    · cases made
    · cases made
    · split at made
      · cases made
      · cases made
        exact ⟨rfl, rfl⟩
      · cases made

theorem sameFiles_makeAll (paths : List String) (directory : Directory) :
    SameFiles directory (directory.makeAll paths).2 := by
  induction paths generalizing directory with
  | nil => exact .refl directory
  | cons path outerPaths ih =>
    rw [makeAll]
    split
    · rename_i made
      exact sameFiles_of_make made
    · split
      · rename_i failed
        have outer := ih directory
        rw [failed] at outer
        exact outer
      · rename_i made
        have outer := ih directory
        rw [made] at outer
        split
        · rename_i last
          exact outer.trans (sameFiles_of_make last)
        · exact outer
    · exact .refl directory

/-- Making a directory ready leaves all files as they are, and where it is depends on the path
alone. -/
theorem ready_spec {path : String} {after : Directory}
    (h : directory.ready path = (.ok place, after)) :
    SameFiles directory after ∧ place = (Path.names path).foldl Place.enter (Path.start path) := by
  rw [ready] at h
  split at h
  · rename_i empty
    obtain rfl := String.isEmpty_iff.mp empty
    cases h
    exact ⟨.refl directory, by decide⟩
  · obtain ⟨found, rfl⟩ := Prod.mk.inj h
    obtain ⟨-, -, found⟩ := bind_eq_ok.mp found
    exact ⟨sameFiles_makeAll (path :: Path.outerPaths path) directory,
      eq_foldl_enter_of_find found⟩

end Directory

end NaturalKey
