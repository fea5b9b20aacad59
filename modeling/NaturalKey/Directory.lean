import NaturalKey.Database.FileName
import NaturalKey.Fault
import NaturalKey.Store

/-!
A directory of files and databases, the one that a program works in. A path is walked name by name,
and every place on the way has to be a directory. A database lies at a place of its own, in files
with fixed names.
-/

set_option autoImplicit false

namespace NaturalKey

/-- A place by the names that lead to it. It is counted from the directory, unless it begins with
the root `/`, or with `..` for each directory further out. -/
abbrev Place : Type := List String

namespace Place

def root : Place := ["/"]

/-- Whether a place is further out than the directory, where nothing but directories is known. -/
def isOuter (place : Place) : Bool :=
  place == root || place.all (· == "..")

def parent (place : Place) : Place :=
  if place == root then root
  else if place.isOuter then place ++ [".."]
  else place.dropLast

/-- Goes on to a name, as if there were only directories. -/
def enter (place : Place) (name : String) : Place :=
  if name = "" ∨ name = "." then place
  else if name = ".." then place.parent
  else place ++ [name]

end Place

namespace Path

def splitAtSlashes : List Char → List (List Char)
  | [] => [[]]
  | c :: rest =>
    match splitAtSlashes rest with
    | [] => [[c]]
    | piece :: pieces => if c = '/' then [] :: piece :: pieces else (c :: piece) :: pieces

def names (path : String) : List String :=
  (splitAtSlashes path.toList).map String.ofList

def isAbsolute (path : String) : Bool :=
  path.toList.head? == some '/'

def start (path : String) : Place :=
  if isAbsolute path then Place.root else []

def withoutTrailingSlashes (path : String) : String :=
  String.ofList (path.toList.reverse.dropWhile (· == '/')).reverse

/-- The names of a path without those that lead nowhere. -/
def properNames (path : String) : List String :=
  (names path).filter fun name => name != "" && name != "."

/-- The beginnings of a list between the empty one and the whole, the longest first. -/
def beginnings (names : List String) : List (List String) :=
  ((List.range names.length).drop 1).reverse.map names.take

/-- The paths with fewer names that lead to a path, the longest first. -/
def outerPaths (path : String) : List String :=
  let slash := if isAbsolute path then "/" else ""
  (beginnings (properNames path)).map fun names => slash ++ "/".intercalate names

def sizeLimit : Nat := 4096

def nameLimit : Nat := 255

/-- Why a path cannot be used, whatever there is in a directory. -/
def problem? (path : String) : Option OsError :=
  if path.toList.contains '\x00' then some .nulInPath
  else if path.isEmpty then some .notFound
  else if sizeLimit ≤ path.utf8ByteSize then some .nameTooLong
  else none

end Path

structure Directory where
  files : List (Place × List UInt8)
  directories : List Place
  databases : List (Place × Database)

namespace Directory

def empty : Directory := ⟨[], [], []⟩

/-- The bytes of the file at a place; of files at the same place the last one counts. -/
def file? (directory : Directory) (place : Place) : Option (List UInt8) :=
  (directory.files.reverse.find? fun file => file.1 == place).map Prod.snd

def isDirectory (directory : Directory) (place : Place) : Bool :=
  place.isOuter || directory.directories.contains place

def go (directory : Directory) (place : Place) (name : String) : Except OsError Place :=
  let next := place.enter name
  if !directory.isDirectory place then .error .notADirectory
  else if Path.nameLimit < name.utf8ByteSize then .error .nameTooLong
  else if directory.isDirectory next || (directory.file? next).isSome then .ok next
  else .error .notFound

def find (directory : Directory) (path : String) : Except OsError Place :=
  match Path.problem? path with
  | some error => .error error
  | none => (Path.names path).foldlM directory.go (Path.start path)

def source (directory : Directory) (path : String) : Source :=
  match directory.find path with
  | .error error => .missing error
  | .ok place =>
    match directory.file? place with
    | some bytes => .file bytes
    | none => .directory

def named (directory : Directory) (path : String) : NamedSource :=
  ⟨path, directory.source path⟩

/-- Adds a file, or replaces the one at its place, and all directories on the way. -/
def putFile (directory : Directory) (path : String) (bytes : List UInt8) : Directory :=
  let place := (Path.names path).foldl Place.enter (Path.start path)
  { directory with
    files := directory.files ++ [(place, bytes)]
    directories := directory.directories ++ Path.beginnings place }

def write (directory : Directory) (place : Place) (bytes : List UInt8) : Directory :=
  { directory with files := directory.files.filter (·.1 != place) ++ [(place, bytes)] }

def remove (directory : Directory) (place : Place) : Directory :=
  { directory with files := directory.files.filter (·.1 != place) }

def removeAll (directory : Directory) (place : Place) : Directory where
  files := directory.files.filter fun file => !place.isPrefixOf file.1
  directories := directory.directories.filter fun other => !place.isPrefixOf other
  databases := directory.databases.filter fun database => !place.isPrefixOf database.1

def namesAt (directory : Directory) (place : Place) : List String :=
  let places := directory.files.map Prod.fst ++ directory.directories
  (places.filter fun inner => inner.length == place.length + 1 && place.isPrefixOf inner).filterMap
    List.getLast?

def database? (directory : Directory) (place : Place) : Option Database :=
  (directory.databases.find? fun database => database.1 == place).map Prod.snd

/-- Keeps what a database has become. Of a log only that it is not empty can be told. -/
def putDatabase (directory : Directory) (place : Place) (database : Database) : Directory :=
  let directory := if database.isLogged then
      directory.write (place ++ [Database.FileName.logOf database.log]) [0]
    else directory
  { directory with
    databases := directory.databases.filter (·.1 != place) ++ [(place, database)] }

/-! ### Making directories -/

def make (directory : Directory) (path : String) : Except OsError Directory :=
  match Path.problem? path with
  | some error => .error error
  | none => do
    let names := Path.names (Path.withoutTrailingSlashes path)
    let outer ← (names.dropLast ++ ["."]).foldlM directory.go (Path.start path)
    match names.getLast?.getD "" with
    | "" | "." | ".." => .error .exists
    | name =>
      match directory.go outer name with
      | .ok _ => .error .exists
      | .error .notFound =>
        .ok { directory with directories := directory.directories ++ [outer ++ [name]] }
      | .error error => .error error

def isDirectoryAt (directory : Directory) (path : String) : Bool :=
  match directory.find path with
  | .ok place => directory.isDirectory place
  | .error _ => false

/-- What it means that a directory could not be made: nothing, if there is one already. -/
def unlessThere (directory : Directory) (path : String) (error : OsError) : Except OsError Unit :=
  if error = .exists ∧ directory.isDirectoryAt path then .ok () else .error error

/-- Makes the directory at the first path, and for that as many of the others as are missing; each
path leads to the one before. What is made stays, also after a failure. -/
def makeAll (directory : Directory) : List String → Except OsError Unit × Directory
  | [] => (.ok (), directory)
  | path :: outerPaths =>
    match directory.make path with
    | .ok directory => (.ok (), directory)
    | .error .notFound =>
      match directory.makeAll outerPaths with
      | (.error error, directory) => (.error error, directory)
      | (.ok (), directory) =>
        match directory.make path with
        | .ok directory => (.ok (), directory)
        | .error error => (directory.unlessThere path error, directory)
    | .error error => (directory.unlessThere path error, directory)

/-- Makes the directory at a path ready, and those that lead there; the empty path stands for the
directory itself. -/
def ready (directory : Directory) (path : String) : Except OsError Place × Directory :=
  if path.isEmpty then (.ok [], directory)
  else
    let (made, directory) := directory.makeAll (path :: Path.outerPaths path)
    (made.bind fun _ => directory.find path, directory)

end Directory

end NaturalKey
