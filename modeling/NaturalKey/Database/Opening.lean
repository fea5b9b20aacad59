import NaturalKey.Database.FileName
import NaturalKey.Directory

/-!
Opening the database at a path. Its files are looked at one after another, and each may turn out not
to be what it should; what was done before that stays done. Of most files only the names matter, and
what is written in them here is a sample.
-/

set_option autoImplicit false

namespace NaturalKey.Database

/-- Work on a directory that a fault can end. -/
abbrev Opening : Type → Type := ExceptT DatabaseFault (StateM Directory)

/-- Where a database is opened: the path as it was given, and the place that it leads to. -/
structure Site where
  path : String
  place : Place

namespace Site

def pathOf (site : Site) (name : String) : String :=
  site.path ++ "/" ++ name

def placeOf (site : Site) (name : String) : Place :=
  site.place ++ [name]

def isInReach (site : Site) (name : String) : Bool :=
  (Path.problem? (site.pathOf name)).isNone

def isDirectory (site : Site) (name : String) : Opening Bool := do
  return (← get).isDirectory (site.placeOf name)

def file? (site : Site) (name : String) : Opening (Option (List UInt8)) := do
  return (← get).file? (site.placeOf name)

def write (site : Site) (name : String) (text : String) : Opening Unit :=
  modify fun directory => directory.write (site.placeOf name) (Utf8.encode text)

def remove (site : Site) (name : String) : Opening Unit :=
  modify fun directory => directory.remove (site.placeOf name)

def numbered (site : Site) : Opening (List (String × FileName)) := do
  return ((← get).namesAt site.place).filterMap fun name =>
    (FileName.ofString? name).map fun fileName => (name, fileName)

/-- Refuses a directory, and a path that cannot be used, where a file is needed. -/
def needFile (site : Site) (use : FileUse) (name : String) : Opening Unit := do
  match Path.problem? (site.pathOf name) with
  | some error => throw (.unusable use (site.pathOf name) error)
  | none =>
    if ← site.isDirectory name then
      throw (.unusable use (site.pathOf name) .isADirectory)

/-- Writes a file under one name and then gives it another one. -/
def replace (site : Site) (draft name : String) (text : String) : Opening Unit := do
  site.needFile .append draft
  site.remove draft
  if ← site.isDirectory name then
    throw (.unusable (.renameTo (site.pathOf name)) (site.pathOf draft) .isADirectory)
  site.write name text

/-- Starts a new report. What had its name gets another one with the time in it, if the path can be
used then. -/
def startReport (site : Site) : Opening Unit := do
  let isThere := (← site.isDirectory reportName) || (← site.file? reportName).isSome
  let next := if isThere then reportName ++ ".old.1767225600000000" else reportName
  if site.isInReach next then
    modify fun directory => directory.removeAll (site.placeOf reportName)
    site.write reportName "2026/01/01-00:00:00.000000 0 RocksDB version: 10.4.2\n"

def takeLock (site : Site) : Opening Unit := do
  site.needFile .lock lockName
  if (← site.file? lockName).isNone then
    site.write lockName ""

/-- The name in the file that names the manifest: a line of its own. -/
def manifestNamed (bytes : List UInt8) : Except Corruption String :=
  match (bytes.map fun byte => Char.ofNat byte.toNat).reverse with
  | '\n' :: reversed =>
    let name := match reversed.reverse with
      | '/' :: name => name
      | name => name
    match FileName.ofChars? name with
    | some ⟨.manifest, _⟩ => .ok (String.ofList name)
    | _ => .error .malformedPointer
  | _ => .error .unterminatedPointer

def create (site : Site) : Opening Unit := do
  let manifest := FileName.manifestOf 1
  site.needFile .append manifest
  site.write manifest "\x00"
  site.replace (FileName.temporaryOf 1) pointerName (manifest ++ "\n")
  modify fun directory => directory.putDatabase site.place .empty

def recover (site : Site) (manifest : String) : Opening Database := do
  let directory ← get
  let path := if site.path.endsWith "/" then site.path ++ manifest else site.pathOf manifest
  match Path.problem? path, directory.isDirectory (site.placeOf manifest) with
  | some error, _ => throw (.unusable .openForReading path error)
  | none, true => throw (.unusable .read path .isADirectory)
  | none, false =>
    match directory.file? (site.placeOf manifest), directory.database? site.place with
    | none, _ => throw (.unusable .openForReading path .notFound)
    | some _, some database => return database
    | some _, none => throw (.corrupt .emptyManifest)

def pointer? (site : Site) : Opening (Option (List UInt8)) := do
  if !site.isInReach pointerName then return none
  site.needFile .read pointerName
  site.file? pointerName

def findOrCreate (site : Site) : Opening (Database × Bool) := do
  match ← site.pointer? with
  | none =>
    site.create
    return (.empty, true)
  | some bytes =>
    match manifestNamed bytes with
    | .error corruption => throw (.corrupt corruption)
    | .ok manifest => return (← site.recover manifest, false)

def identify (site : Site) (isNew : Bool) : Opening Unit := do
  if !isNew then
    site.needFile .read identityName
  let identity := "00000000-0000-4000-8000-000000000000"
  if isNew || (← site.file? identityName) != some (Utf8.encode identity) then
    site.replace (FileName.temporaryOf 0) identityName identity

/-- Reads the logs that were left, the oldest first. A new database has none. -/
def readLogs (site : Site) (isNew : Bool) : Opening Unit := do
  let logs := (← site.numbered).filter fun file => file.2.kind == .log
  match isNew, logs with
  | true, (name, _) :: _ => throw (.corrupt (.strayLog name))
  | _, _ =>
    for log in logs.mergeSort fun a b => a.2.number ≤ b.2.number do
      let name := FileName.logOf log.2.number
      site.needFile .read name
      if (← site.file? name).isNone then
        throw (.unusable .openForReading (site.pathOf name) .notFound)

/-- Whether a file is of no more use, given the oldest log, manifest and options that still are. -/
def isStale (database : Database) (log manifest options : Nat) (file : FileName) : Bool :=
  match file.kind with
  | .log => file.number < log
  | .manifest => file.number < manifest
  | .options => file.number < options
  | .table => !database.tables.contains file.number
  | .blob | .temporary => true
  | .optionsDraft | .catalog => false

def secondLargest (numbers : List Nat) : Nat :=
  ((numbers.mergeSort (· ≥ ·))[1]?).getD 0

/-- The name under which a stale file is looked for. Tables and blobs are known by their numbers, so
one whose name is not the usual one stays. -/
def removedName (name : String) (fileName : FileName) : String :=
  match fileName.kind with
  | .table => FileName.tableOf fileName.number
  | .blob => FileName.blobOf fileName.number
  | _ => name

/-- Takes away the files that are of no more use. The two newest options are kept. -/
def removeStale (site : Site) (database : Database) (log manifest : Nat) : Opening Unit := do
  let numbered ← site.numbered
  let options := numbered.filter fun file => file.2.kind == .options
  let oldestOptions := secondLargest (options.map fun file => file.2.number)
  for (name, fileName) in numbered do
    if isStale database log manifest oldestOptions fileName then
      site.remove (removedName name fileName)

/-- Gives the database new files: a table with what its log holds, an empty log, a manifest and
options. The numbers go on from the largest one at the place. -/
def renew (site : Site) (database : Database) : Opening Database := do
  let used := (← site.numbered).map fun file => file.2.number
  let table := used.foldl max 3 + 1
  let log := if database.isLogged then table + 1 else table
  let tables := if database.isLogged then database.tables ++ [table] else database.tables
  let renewed : Database := ⟨database.store, tables, log, false⟩
  if database.isLogged then
    site.write (FileName.tableOf table) "\x00"
  site.write (FileName.logOf log) ""
  site.write (FileName.manifestOf (log + 1)) "\x00"
  site.write pointerName (FileName.manifestOf (log + 1) ++ "\n")
  site.write (FileName.optionsOf (log + 3)) "# This is a RocksDB option file.\n"
  site.removeStale renewed (if database.isLogged then log else 0) (log + 1)
  modify fun directory => directory.putDatabase site.place renewed
  return renewed

def openDatabase (site : Site) : Opening Database := do
  site.startReport
  site.takeLock
  let (database, isNew) ← site.findOrCreate
  site.identify isNew
  site.readLogs isNew
  site.renew database

end Site

end NaturalKey.Database

namespace NaturalKey.Directory

/-- Opens the database at a path, an empty one if there is none yet. What was done until it failed
stays done. -/
def openDatabase (directory : Directory) (path : String) :
    Except Fault (Place × Database) × Directory :=
  match directory.ready path with
  | (.error error, directory) => (.error (.database (.unmade error)), directory)
  | (.ok place, directory) =>
    let (opened, directory) := (Database.Site.openDatabase ⟨path, place⟩).run.run directory
    match opened with
    | .ok database => (.ok (place, database), directory)
    | .error fault => (.error (.database fault), directory)

end NaturalKey.Directory
