import NaturalKey.CommandLine.Report
import NaturalKey.Database.Opening
import NaturalKey.Log
import NaturalKey.Lookup
import NaturalKey.Record.Document
import NaturalKey.Registry
import NaturalKey.Seed
import NaturalKey.Store

/-!
A run of the program: the arguments, the registry, the store, the seed file, the lookup, and what is
written in the end. The first failure ends it. A run may have databases to keep records in, or only
memory. Logging is decided apart: what is told of a run never changes its answer.
-/

set_option autoImplicit false

namespace NaturalKey.CommandLine

/-- What a run comes to: its exit code, its answer, what it tells of on the way, and what it says at
the end if there is no answer. -/
structure Outcome where
  exitCode : UInt8
  stdout : String
  log : List String
  report : String
deriving DecidableEq, Repr

/-- What is told of and said is for people, so it goes to the other output. -/
def Outcome.stderr (outcome : Outcome) : String :=
  unlines outcome.log ++ outcome.report

/-- The program has broken down. What the system says about the place is left out. -/
def Outcome.brokenDown : Outcome :=
  ⟨101, "", [], ""⟩

def registryOf (source : String → Source) (arguments : Arguments) : Traced Registry :=
  Registry.ofLayers (arguments.schema?.map fun path => ⟨path, source path⟩) arguments.bindings

variable {σ : Type} [Store σ]

def seed (source : String → Source) (arguments : Arguments) (store : σ) : Traced σ :=
  match arguments.seed? with
  | none => pure store
  | some path => Seed.load store ⟨path, source path⟩

/-- The record that the arguments ask for. The tenant is checked first. -/
def find (registry : Registry) (arguments : Arguments) (store : σ) : Traced Record := do
  let tenant ← Tag.ofText arguments.tenant
  ((Lookup.new store registry).forTenant tenant).findById arguments.recordType arguments.id

def lookupInMemory (source : String → Source) (arguments : Arguments) (registry : Registry) :
    Traced Record := do
  let store ← seed source arguments MemoryStore.empty
  find registry arguments store

/-- A lookup without databases. There is only memory, and a path to a database is told of. -/
def lookupWithoutDatabases (source : String → Source) (arguments : Arguments) :
    Traced Record := do
  let registry ← registryOf source arguments
  if arguments.dbPath?.isSome then
    Traced.tell .keptInMemory
  lookupInMemory source arguments registry

/-- A lookup in the database at a path, and what it leaves in the directory: the database keeps what
is loaded into it, however the lookup ends. -/
def lookupInDatabase (directory : Directory) (arguments : Arguments) (path : String) :
    Traced Record × Directory :=
  let registry := registryOf directory.source arguments
  match registry.result with
  | .error fault => (⟨registry.events, .error fault⟩, directory)
  | .ok _ =>
    match directory.openDatabase path with
    | (.error fault, directory) => (⟨registry.events, .error fault⟩, directory)
    | (.ok (place, database), directory) =>
      let seeded := seed directory.source arguments database
      let answer := do
        let registry ← registry
        let database ← seeded
        find registry arguments database
      (answer, directory.putDatabase place (seeded.result.toOption.getD database))

def lookup (directory : Directory) (arguments : Arguments) : Traced Record × Directory :=
  match arguments.dbPath? with
  | some path => lookupInDatabase directory arguments path
  | none => (lookupWithoutDatabases directory.source arguments, directory)

def outcomeOf (setting : Log.Setting) (answer : Traced Record) : Outcome :=
  let log := Log.lines setting answer.events
  match answer.result with
  | .ok record => ⟨0, record.prettyText ++ "\n", log, ""⟩
  | .error fault => ⟨1, "", log, faultReport fault⟩

/-- The outcome that the arguments alone decide, or what they ask to be looked up. -/
def begin (arguments : List String) : Except Outcome Arguments :=
  match parse arguments with
  | .error error => .error ⟨2, "", [], error.report⟩
  | .ok (.show flag) => .error ⟨0, flag.text, [], ""⟩
  | .ok (.lookup arguments) => .ok arguments

/-- A run without databases, given what is found at a path and the setting of the log, which is read
before the arguments. -/
def runWithoutDatabases (source : String → Source) (log? : Option String)
    (arguments : List String) : Outcome :=
  match Log.Setting.parse? log? with
  | none => .brokenDown
  | some setting =>
    match begin arguments with
    | .error outcome => outcome
    | .ok arguments => outcomeOf setting (lookupWithoutDatabases source arguments)

/-- A run with the files and databases of a directory, and what it leaves there. -/
def run (directory : Directory) (log? : Option String) (arguments : List String) :
    Outcome × Directory :=
  match Log.Setting.parse? log? with
  | none => (.brokenDown, directory)
  | some setting =>
    match begin arguments with
    | .error outcome => (outcome, directory)
    | .ok arguments =>
      let (answer, directory) := lookup directory arguments
      (outcomeOf setting answer, directory)

end NaturalKey.CommandLine
