import NaturalKey.Proofs.Database.Work
import NaturalKey.Proofs.Directory

/-!
Opening a database again. Once one has been opened, the file that names the manifest is there and
the database is kept at its place; nothing that is done until it is found the next time touches
either. So what was kept is what is found, unless opening fails.
-/

set_option autoImplicit false

namespace NaturalKey.Database

/-! ### Names -/

theorem ne_pointerName_of_mem {name : String} {c : Char} (h : c ∈ name.toList)
    (h' : c ∉ pointerName.toList) : name ≠ pointerName := by
  rintro rfl
  exact h' h

theorem logOf_ne_pointerName (number : Nat) : FileName.logOf number ≠ pointerName :=
  ne_pointerName_of_mem (c := '.') (by simp [FileName.logOf]) (by decide)

theorem removedName_ne_pointerName {name : String} {fileName : FileName}
    (h : FileName.ofString? name = some fileName) :
    Site.removedName name fileName ≠ pointerName := by
  have differ : name ≠ pointerName := by
    rintro rfl
    have nothing : FileName.ofString? pointerName = none := by decide
    rw [nothing] at h
    cases h
  rw [Site.removedName]
  split
  · exact ne_pointerName_of_mem (c := '.') (by simp [FileName.tableOf]) (by decide)
  · exact ne_pointerName_of_mem (c := '.') (by simp [FileName.blobOf]) (by decide)
  · exact differ

/-! ### What is kept -/

namespace Site

variable {site : Site} {kept : Database} {directory : Directory}

theorem placeOf_ne {name other : String} (h : name ≠ other) :
    site.placeOf name ≠ site.placeOf other := by
  simpa [placeOf] using h

theorem isPrefixOf_placeOf {name other : String} (h : name ≠ other) :
    (site.placeOf name).isPrefixOf (site.placeOf other) = false := by
  rw [← Bool.not_eq_true, List.isPrefixOf_iff_prefix, placeOf, placeOf,
    List.prefix_append_right_inj]
  simpa using h

theorem not_isPrefixOf_place (name : String) :
    (site.placeOf name).isPrefixOf site.place = false := by
  rw [← Bool.not_eq_true, List.isPrefixOf_iff_prefix]
  intro prefixed
  have longer : (site.placeOf name).length ≤ site.place.length := prefixed.length_le
  rw [placeOf, List.length_append, List.length_singleton] at longer
  omega

def HasPointer (site : Site) (directory : Directory) : Prop :=
  (directory.file? (site.placeOf pointerName)).isSome = true

theorem hasPointer_write_pointerName (bytes : List UInt8) :
    site.HasPointer (directory.write (site.placeOf pointerName) bytes) := by
  rw [HasPointer, Directory.file?_write_self]
  rfl

theorem HasPointer.write (h : site.HasPointer directory) (name : String) (bytes : List UInt8) :
    site.HasPointer (directory.write (site.placeOf name) bytes) := by
  by_cases same : name = pointerName
  · rw [same]
    exact hasPointer_write_pointerName bytes
  · rw [HasPointer, Directory.file?_write_of_ne (placeOf_ne (Ne.symm same))]
    exact h

theorem HasPointer.remove (h : site.HasPointer directory) {name : String}
    (differ : name ≠ pointerName) : site.HasPointer (directory.remove (site.placeOf name)) := by
  rw [HasPointer, Directory.file?_remove_of_ne (placeOf_ne (Ne.symm differ))]
  exact h

theorem HasPointer.putDatabase (h : site.HasPointer directory) (database : Database) :
    site.HasPointer (directory.putDatabase site.place database) := by
  have differ : site.placeOf pointerName ≠ site.place ++ [FileName.logOf database.log] :=
    placeOf_ne (logOf_ne_pointerName database.log).symm
  rw [HasPointer, Directory.file?_putDatabase_of_ne differ]
  exact h

/-- A database has been opened at the place, and this is what it has become. -/
structure Holds (site : Site) (kept : Database) (directory : Directory) : Prop where
  pointer : site.HasPointer directory
  database : directory.database? site.place = some kept

theorem HasPointer.holds_putDatabase (h : site.HasPointer directory) (database : Database) :
    site.Holds database (directory.putDatabase site.place database) :=
  ⟨h.putDatabase database, Directory.database?_putDatabase_self _ _ _⟩

theorem Holds.write (h : site.Holds kept directory) (name : String) (bytes : List UInt8) :
    site.Holds kept (directory.write (site.placeOf name) bytes) :=
  ⟨h.pointer.write name bytes, h.database⟩

theorem Holds.removeAll (h : site.Holds kept directory) {name : String}
    (differ : name ≠ pointerName) : site.Holds kept (directory.removeAll (site.placeOf name)) := by
  constructor
  · rw [HasPointer, Directory.file?_removeAll_of_not_isPrefixOf (isPrefixOf_placeOf differ)]
    exact h.pointer
  · rw [Directory.database?_removeAll_of_not_isPrefixOf (not_isPrefixOf_place name)]
    exact h.database

theorem Holds.of_sameFiles {after : Directory} (h : site.Holds kept directory)
    (same : Directory.SameFiles directory after) : site.Holds kept after := by
  constructor
  · rw [HasPointer, same.file?_eq]
    exact h.pointer
  · rw [same.database?_eq]
    exact h.database

/-! ### Opening for the first time -/

theorem leads_write_pointerName {P : Directory → Prop} (text : String) :
    Leads P (site.write pointerName text) fun _ => site.HasPointer :=
  leads_modify fun _ _ => hasPointer_write_pointerName _

theorem leads_write_hasPointer (name text : String) :
    Leads site.HasPointer (site.write name text) fun _ => site.HasPointer :=
  leads_modify fun _ pointer => pointer.write _ _

theorem leads_numbered {P : Directory → Prop} :
    Leads P site.numbered fun files directory =>
      (∀ file ∈ files, FileName.ofString? file.1 = some file.2) ∧ P directory := by
  refine leads_bind (Q := fun _ => P) (leads_get fun _ holds => holds) fun directory => ?_
  refine leads_pure fun other holds => ⟨?_, holds⟩
  intro file member
  obtain ⟨name, -, named⟩ := List.mem_filterMap.mp member
  obtain ⟨fileName, known, rfl⟩ := Option.map_eq_some_iff.mp named
  exact known

/-- The file that names the manifest is never of no more use. -/
theorem leads_removeStale (database : Database) (log manifest : Nat) :
    Leads site.HasPointer (site.removeStale database log manifest) fun _ => site.HasPointer := by
  rw [removeStale]
  refine leads_bind leads_numbered fun files => leads_of_fact fun known => ?_
  refine leads_bind (leads_forIn ?_) fun _ => leads_pure fun _ pointer => pointer
  rintro ⟨name, fileName⟩ member
  dsimp only
  split
  · have removed : Leads site.HasPointer (site.remove (removedName name fileName))
        fun _ => site.HasPointer :=
      leads_modify fun _ pointer => pointer.remove (removedName_ne_pointerName (known _ member))
    exact leads_bind removed fun _ => leads_pure fun _ pointer => pointer
  · exact leads_pure fun _ pointer => pointer

/-- Whatever was found before, a database that is opened is kept with what it held. -/
theorem leads_renew {P : Directory → Prop} (database : Database) :
    Leads P (site.renew database) fun renewed directory =>
      renewed.store = database.store ∧ site.Holds renewed directory := by
  rw [renew]
  refine leads_bind leads_true fun files => ?_
  lift_lets
  intro used table log tables renewed rest
  -- what is done after the table is the same whether or not one is needed
  have done (value : Unit) : Leads (fun _ => True) (rest value) fun renewed directory =>
      renewed.store = database.store ∧ site.Holds renewed directory := by
    refine leads_bind leads_true fun _ => leads_bind leads_true fun _ => ?_
    refine leads_bind (leads_write_pointerName _) fun _ => ?_
    refine leads_bind (leads_write_hasPointer _ _) fun _ => ?_
    refine leads_bind (leads_removeStale _ _ _) fun _ => ?_
    refine leads_bind (Q := fun _ => site.Holds renewed) ?_ fun _ => ?_
    · exact leads_modify fun _ pointer => pointer.holds_putDatabase renewed
    · exact leads_pure fun _ holds => ⟨rfl, holds⟩
  split
  · exact leads_bind leads_true done
  · exact done ()

/-! ### Opening again -/

theorem leads_isDirectory {P : Directory → Prop} (name : String) :
    Leads P (site.isDirectory name) fun _ => P :=
  leads_bind (Q := fun _ => P) (leads_get fun _ holds => holds)
    fun _ => leads_pure fun _ holds => holds

theorem leads_file? {P : Directory → Prop} (name : String) :
    Leads P (site.file? name) fun bytes? directory =>
      bytes? = directory.file? (site.placeOf name) ∧ P directory :=
  leads_bind (Q := fun found directory => found = directory ∧ P directory)
    (leads_get fun _ holds => ⟨rfl, holds⟩)
    fun _ => leads_pure fun _ ⟨same, holds⟩ => ⟨by rw [same], holds⟩

theorem leads_needFile {P : Directory → Prop} (use : FileUse) (name : String) :
    Leads P (site.needFile use name) fun _ directory =>
      site.isInReach name = true ∧ P directory := by
  rw [needFile]
  split
  · exact leads_throw _
  · rename_i reach
    refine leads_bind (leads_isDirectory name) fun isDirectory => ?_
    split
    · exact leads_throw _
    · refine leads_pure fun _ holds => ⟨?_, holds⟩
      rw [isInReach, reach]
      rfl

theorem leads_startReport :
    Leads (site.Holds kept) site.startReport fun _ => site.Holds kept := by
  rw [startReport]
  refine leads_bind (leads_isDirectory _) fun _ => leads_bind (leads_file? _) fun _ => ?_
  lift_lets
  intro isThere next
  split
  · refine leads_bind (Q := fun _ => site.Holds kept) ?_ fun _ => ?_
    · exact leads_modify fun _ ⟨_, holds⟩ => holds.removeAll (by decide)
    · exact leads_modify fun _ holds => holds.write _ _
  · exact leads_pure fun _ ⟨_, holds⟩ => holds

theorem leads_takeLock : Leads (site.Holds kept) site.takeLock fun _ => site.Holds kept := by
  rw [takeLock]
  refine leads_bind (leads_needFile _ _) fun _ => leads_bind (leads_file? _) fun _ => ?_
  split
  · exact leads_modify fun _ ⟨_, _, holds⟩ => holds.write _ _
  · exact leads_pure fun _ ⟨_, _, holds⟩ => holds

/-- Where the manifest of a new database can be written, its shorter neighbour can be read. -/
theorem isInReach_pointerName (h : site.isInReach (FileName.manifestOf 1) = true) :
    site.isInReach pointerName = true := by
  have manifest : FileName.manifestOf 1 = "MANIFEST-000001" := by decide
  rw [isInReach, Option.isNone_iff_eq_none, Path.problem?_eq_none_iff, manifest] at h
  rw [isInReach, Option.isNone_iff_eq_none, Path.problem?_eq_none_iff]
  obtain ⟨free, -, short⟩ := h
  simp only [pathOf, String.toList_append, List.mem_append, not_or, String.utf8ByteSize_append] at *
  refine ⟨⟨free.1, by decide⟩, by simp, ?_⟩
  have shorter : pointerName.utf8ByteSize ≤ "MANIFEST-000001".utf8ByteSize := by decide
  omega

theorem leads_pointer? :
    Leads (site.Holds kept) site.pointer? fun bytes? directory =>
      (bytes? = none → site.isInReach pointerName = false) ∧ site.Holds kept directory := by
  rw [pointer?]
  split
  · rename_i unreached
    refine leads_pure fun _ holds => ⟨fun _ => ?_, holds⟩
    simpa using unreached
  · refine leads_bind (leads_needFile _ _) fun _ => ?_
    refine (leads_file? _).mono ?_
    rintro bytes? directory ⟨found, -, holds⟩
    refine ⟨fun missing => ?_, holds⟩
    have present := holds.pointer
    rw [HasPointer, ← found, missing] at present
    cases present

theorem leads_create_of_unreached {P Q : Directory → Prop}
    (unreached : site.isInReach pointerName = false) :
    Leads P site.create fun _ => Q := by
  refine leads_bind (leads_needFile _ _) fun _ => leads_of_fact fun reached => ?_
  rw [isInReach_pointerName reached] at unreached
  cases unreached

theorem leads_recover (manifest : String) :
    Leads (site.Holds kept) (site.recover manifest) fun found _ => found = kept := by
  rw [recover]
  refine leads_bind (Q := fun found directory => found = directory ∧ site.Holds kept directory)
    (leads_get fun _ holds => ⟨rfl, holds⟩) fun directory => ?_
  dsimp only
  split
  · exact leads_throw _
  · exact leads_throw _
  · split
    · exact leads_throw _
    · rename_i stored
      refine leads_pure fun _ ⟨same, holds⟩ => ?_
      rw [same, holds.database] at stored
      exact (Option.some.inj stored).symm
    · exact leads_throw _

theorem leads_findOrCreate :
    Leads (site.Holds kept) site.findOrCreate fun found _ => found.1 = kept := by
  rw [findOrCreate]
  refine leads_bind leads_pointer? fun bytes? => ?_
  split
  · -- the file is there, so its path cannot be used, and then that of a new manifest cannot either
    refine leads_of_fact fun unreached => ?_
    exact leads_bind (Q := fun _ _ => False) (leads_create_of_unreached (unreached rfl))
      fun _ => leads_pure fun _ impossible => impossible.elim
  · split
    · exact leads_throw _
    · refine leads_of_fact fun _ => leads_bind (leads_recover _) fun found => ?_
      exact leads_pure fun _ same => same

/-! ### The last step -/

/-- Everything but the last step, which gives the database new files. -/
def check (site : Site) : Opening Database := do
  site.startReport
  site.takeLock
  let (database, isNew) ← site.findOrCreate
  site.identify isNew
  site.readLogs isNew
  return database

theorem openDatabase_eq (site : Site) : site.openDatabase = site.check >>= site.renew := by
  simp only [openDatabase, check, bind_assoc, pure_bind]

theorem endsWell_removeStale (database : Database) (log manifest : Nat) :
    EndsWell (site.removeStale database log manifest) := by
  refine endsWell_bind (endsWell_bind endsWell_get fun _ => endsWell_pure _) fun files => ?_
  refine endsWell_bind (endsWell_forIn ?_) fun _ => endsWell_pure _
  rintro ⟨name, fileName⟩
  dsimp only
  split
  · exact endsWell_bind (endsWell_modify _) fun _ => endsWell_pure _
  · exact endsWell_pure _

theorem endsWell_renew (site : Site) (database : Database) : EndsWell (site.renew database) := by
  rw [renew]
  refine endsWell_bind (endsWell_bind endsWell_get fun _ => endsWell_pure _) fun files => ?_
  lift_lets
  intro used table log tables renewed rest
  have done (value : Unit) : EndsWell (rest value) :=
    endsWell_bind (endsWell_modify _) fun _ => endsWell_bind (endsWell_modify _) fun _ =>
      endsWell_bind (endsWell_modify _) fun _ => endsWell_bind (endsWell_modify _) fun _ =>
      endsWell_bind (endsWell_removeStale _ _ _) fun _ =>
      endsWell_bind (endsWell_modify _) fun _ => endsWell_pure _
  split
  · exact endsWell_bind (endsWell_modify _) done
  · exact done ()

/-- After any opening the database is there. -/
theorem leads_openDatabase {P : Directory → Prop} :
    Leads P site.openDatabase fun opened directory => site.Holds opened directory := by
  rw [openDatabase_eq]
  refine leads_bind leads_true fun database => ?_
  exact (leads_renew database).mono fun _ _ ⟨_, holds⟩ => holds

/-- Where a database was kept it holds what it held. -/
theorem leads_openDatabase_again :
    Leads (site.Holds kept) site.openDatabase fun opened _ => opened.store = kept.store := by
  have checked : Leads (site.Holds kept) site.check fun found _ => found = kept := by
    rw [check]
    refine leads_bind leads_startReport fun _ => leads_bind leads_takeLock fun _ => ?_
    refine leads_bind leads_findOrCreate fun (database, isNew) => leads_of_only fun same => ?_
    refine leads_bind leads_true fun _ => leads_bind leads_true fun _ => ?_
    exact leads_pure fun _ _ => same
  rw [openDatabase_eq]
  refine leads_bind checked fun database => leads_of_only fun same => ?_
  exact (leads_renew database).mono fun _ _ ⟨store, _⟩ => store.trans (congrArg _ same)

end Site

end NaturalKey.Database

namespace NaturalKey.Directory

open Database (Site)

variable {directory after : Directory} {path : String} {place : Place} {database : Database}

theorem openDatabase_ok (h : directory.openDatabase path = (.ok (place, database), after)) :
    ∃ made, directory.ready path = (.ok place, made) ∧
      (Site.openDatabase ⟨path, place⟩).run.run made = (.ok database, after) := by
  rw [openDatabase] at h
  split at h
  · cases h
  · rename_i found made ready
    rcases opened : (Site.openDatabase ⟨path, found⟩).run.run made with ⟨fault | other, left⟩
    · rw [opened] at h
      cases h
    · rw [opened] at h
      cases h
      exact ⟨made, ready, opened⟩

/-- Whether the database at a path can be opened, which does not depend on the last step. -/
def canOpen (directory : Directory) (path : String) : Bool :=
  match directory.ready path with
  | (.ok place, directory) => ((Site.check ⟨path, place⟩).run.run directory).1.isOk
  | (.error _, _) => false

theorem isOk_openDatabase (directory : Directory) (path : String) :
    (directory.openDatabase path).1.isOk = directory.canOpen path := by
  rw [canOpen, openDatabase]
  rcases directory.ready path with ⟨error | place, made⟩
  · rfl
  · dsimp only
    rw [Site.openDatabase_eq, Database.run_bind]
    rcases (Site.check ⟨path, place⟩).run.run made with ⟨fault | database, middle⟩
    · rfl
    · obtain ⟨renewed, after, done⟩ := Site.endsWell_renew ⟨path, place⟩ database middle
      simp only [done]
      rfl

/-- A database keeps what it has. If, whatever becomes of it after it was opened, it can be opened
again at the same path, then it holds this. -/
theorem store_of_openDatabase_again {kept database' : Database} {place' : Place}
    {after' : Directory} (opens : directory.openDatabase path = (.ok (place, database), after))
    (reopens : (after.putDatabase place kept).openDatabase path =
      (.ok (place', database'), after')) : database'.store = kept.store := by
  obtain ⟨made, ready, done⟩ := openDatabase_ok opens
  obtain ⟨made', ready', done'⟩ := openDatabase_ok reopens
  obtain rfl : place' = place := (ready_spec ready').2.trans (ready_spec ready).2.symm
  have opened : Site.Holds ⟨path, place'⟩ database after :=
    Site.leads_openDatabase (P := fun _ => True) made trivial database after done
  have left : Site.Holds ⟨path, place'⟩ kept (after.putDatabase place' kept) :=
    opened.pointer.holds_putDatabase kept
  have found : Site.Holds ⟨path, place'⟩ kept made' := left.of_sameFiles (ready_spec ready').1
  exact Site.leads_openDatabase_again made' found database' after' done'

end NaturalKey.Directory
