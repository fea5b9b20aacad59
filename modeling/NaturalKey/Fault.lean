import NaturalKey.Csv
import NaturalKey.Json.Fault
import NaturalKey.Record

/-!
Everything that can go wrong, as causes; the wording follows from the cause. Some faults have a code
that programs can rely on, and some of those a hint for people.
-/

set_option autoImplicit false

namespace NaturalKey

inductive OsError where
  | notFound
  | exists
  | notADirectory
  | isADirectory
  | nameTooLong
  /-- The path holds a NUL character, so the system cannot even be asked. -/
  | nulInPath
deriving DecidableEq, Repr

namespace OsError

def code? : OsError → Option Nat
  | .notFound => some 2
  | .exists => some 17
  | .notADirectory => some 20
  | .isADirectory => some 21
  | .nameTooLong => some 36
  | .nulInPath => none

def kindName : OsError → String
  | .notFound => "NotFound"
  | .exists => "AlreadyExists"
  | .notADirectory => "NotADirectory"
  | .isADirectory => "IsADirectory"
  | .nameTooLong => "InvalidFilename"
  | .nulInPath => "InvalidInput"

def description : OsError → String
  | .notFound => "No such file or directory"
  | .exists => "File exists"
  | .notADirectory => "Not a directory"
  | .isADirectory => "Is a directory"
  | .nameTooLong => "File name too long"
  | .nulInPath => "file name contained an unexpected NUL byte"

def text (error : OsError) : String :=
  match error.code? with
  | some code => error.description ++ " (os error " ++ toString code ++ ")"
  | none => error.description

def details (error : OsError) : String :=
  let head :=
    match error.code? with
    | some code => "Os \x7b code: " ++ toString code ++ ", "
    | none => "Error \x7b "
  head ++ "kind: " ++ error.kindName ++ ", message: " ++ Text.quoted error.description ++ " \x7d"

end OsError

/-- What is found at a path when it is opened for reading. -/
inductive Source where
  | missing (error : OsError)
  /-- A directory can be opened; only reading from it fails. -/
  | directory
  | file (bytes : List UInt8)
deriving Repr

structure NamedSource where
  path : String
  source : Source
deriving Repr

inductive IoFault where
  | os (error : OsError)
  | sinkFull
deriving DecidableEq, Repr

def IoFault.text : IoFault → String
  | .os error => error.text
  | .sinkFull => "failed to write whole buffer"

inductive Violation where
  | blankRecordType
  | blankTenant
  | blankKeyField (recordType : RecordType)
  | notABinding (text : String)
  | noKeyField (text : String)
  | emptyKey
  | attributesNotObject (value : Json)
  | reservedCharacter
deriving Repr

def Violation.text : Violation → String
  | .blankRecordType => "Record type must not be empty"
  | .blankTenant => "Tenant must not be empty"
  | .blankKeyField recordType => "Key field for " ++ recordType.text ++ " must not be empty"
  | .notABinding text => "Expected TYPE=FIELD, got " ++ Text.quoted text
  | .noKeyField text => "Missing key field in " ++ Text.quoted text
  | .emptyKey => "Key field must not be empty"
  | .attributesNotObject value => "Attributes must be a JSON object, got " ++ value.compact
  | .reservedCharacter => "Tenant, type and id must not contain the 0x1F separator"

inductive DocumentFault where
  | malformed (error : Json.Error)
  /-- The document as a whole stands for something that is refused. -/
  | refused (reason : String)
  | io (fault : IoFault)
deriving Repr

def DocumentFault.text : DocumentFault → String
  | .malformed error => error.text
  | .refused reason => reason
  | .io fault => fault.text

/-- What the files of a database are used for when it is opened. -/
inductive FileUse where
  | lock
  | openForReading
  | read
  | append
  /-- A file takes the place of the one at a path. -/
  | renameTo (path : String)
deriving DecidableEq, Repr

def FileUse.text : FileUse → String
  | .lock => "while open a file for lock"
  | .openForReading => "While opening a file for sequentially reading"
  | .read => "While reading file sequentially"
  | .append => "While open a file for appending"
  | .renameTo path => "While renaming a file to " ++ path

inductive Corruption where
  | unterminatedPointer
  /-- The file that names the manifest names something else. -/
  | malformedPointer
  | emptyManifest
  /-- There is a log where there was no database. -/
  | strayLog (name : String)
deriving DecidableEq, Repr

def Corruption.text : Corruption → String
  | .unterminatedPointer => "CURRENT file does not end with newline"
  | .malformedPointer => "CURRENT file corrupted"
  | .emptyManifest => "no meta-nextfile entry in descriptor"
  | .strayLog name =>
    "While creating a new Db, wal_dir contains existing log file: : " ++ name

inductive DatabaseFault where
  | unmade (error : OsError)
  | unusable (use : FileUse) (path : String) (error : OsError)
  | corrupt (corruption : Corruption)
deriving DecidableEq, Repr

def DatabaseFault.text : DatabaseFault → String
  | .unmade error => "Failed to create RocksDB directory: `" ++ error.details ++ "`."
  | .unusable use path error =>
    let missing := if error = .notFound then error.description ++ ": " else ""
    "IO error: " ++ missing ++ use.text ++ ": " ++ path ++ ": " ++ error.description
  | .corrupt corruption => "Corruption: " ++ corruption.text

inductive Fault where
  | notFound (recordType : RecordType) (filter : Filter)
  | multipleMatches (recordType : RecordType) (filter : Filter) (count : Nat)
  | invalidIdentifier (text : String)
  | unknownType (recordType : RecordType)
  | invalid (violation : Violation)
  | csv (fault : Csv.Fault)
  | io (fault : IoFault)
  | unopened (error : OsError)
  | document (fault : DocumentFault)
  | database (fault : DatabaseFault)
  | internal (text : String)
deriving Repr

namespace Fault

def cause? : Fault → Option String
  | .io fault => some fault.text
  | .document fault => some fault.text
  | .database fault => some fault.text
  | .csv fault => some fault.text
  | _ => none

def introduction : Fault → String
  | .csv _ => "CSV error: "
  | .io _ => "IO error: "
  | .document _ => "Serialization error: "
  | .database _ => "RocksDB error: "
  | _ => ""

def text : Fault → String
  | .notFound recordType filter =>
    recordType.text ++ " matching " ++ filter.text ++ " not found"
  | .multipleMatches recordType filter count =>
    toString count ++ " " ++ recordType.text ++ " records match " ++ filter.text ++
      ", expected exactly one"
  | .invalidIdentifier text => "Invalid identifier: " ++ Text.quoted text
  | .unknownType recordType => "Unknown record type: " ++ recordType.text
  | .invalid violation => "Validation error: " ++ violation.text
  | .unopened error => error.text
  | .internal text => "Internal error: " ++ text
  | fault => fault.introduction ++ fault.cause?.getD ""

def code? : Fault → Option String
  | .notFound .. => some "reclookup::not_found"
  | .multipleMatches .. => some "reclookup::multiple_matches"
  | .invalidIdentifier _ => some "reclookup::invalid_identifier"
  | .unknownType _ => some "reclookup::unknown_record_type"
  | _ => none

def help? : Fault → Option String
  | .multipleMatches .. =>
    some "the store holds duplicate rows for a key that should be unique"
  | .unknownType _ => some "register its key field with --key TYPE=FIELD or a --schema file"
  | _ => none

def ofBlank (kind : Tag.Kind) (text : String) : Fault :=
  match kind with
  | .recordType => .invalid .blankRecordType
  | .tenant => .invalid .blankTenant
  | .id => .invalidIdentifier text

end Fault

def Tag.ofText {kind : Tag.Kind} (text : String) : Except Fault (Tag kind) :=
  match Tag.ofText? text with
  | some tag => .ok tag
  | none => .error (.ofBlank kind text)

end NaturalKey
