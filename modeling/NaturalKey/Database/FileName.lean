/-!
The names of the files that a database lies in. Some are fixed; the others have a number, by which
newer files can be told from older ones.
-/

set_option autoImplicit false

namespace NaturalKey.Database

/-- The file that is held as long as a database is open. -/
def lockName : String := "LOCK"

/-- The file that tells what a database does. -/
def reportName : String := "LOG"

/-- The file that names the manifest. -/
def pointerName : String := "CURRENT"

/-- The file that tells one database from every other. -/
def identityName : String := "IDENTITY"

/-- What a file with a number in its name is for. -/
inductive FileKind where
  | log
  | manifest
  | options
  | optionsDraft
  | table
  | blob
  /-- A file on its way to another name. -/
  | temporary
  | catalog
deriving DecidableEq, Repr

structure FileName where
  kind : FileKind
  number : Nat
deriving DecidableEq, Repr

namespace FileName

def digits (number : Nat) : String :=
  let text := toString number
  "".pushn '0' (6 - text.length) ++ text

def logOf (number : Nat) : String := digits number ++ ".log"

def tableOf (number : Nat) : String := digits number ++ ".sst"

def blobOf (number : Nat) : String := digits number ++ ".blob"

def temporaryOf (number : Nat) : String := digits number ++ ".dbtmp"

def manifestOf (number : Nat) : String := "MANIFEST-" ++ digits number

def optionsOf (number : Nat) : String := "OPTIONS-" ++ digits number

/-- The number in front of a text, of less than 64 bits, and what follows it. -/
def readNumber? (chars : List Char) : Option (Nat × List Char) :=
  let digits := chars.takeWhile Char.isDigit
  let number := digits.foldl (fun number c => number * 10 + (c.toNat - 0x30)) 0
  if digits.isEmpty || 0x10000000000000000 ≤ number then none
  else some (number, chars.dropWhile Char.isDigit)

def after? (beginning : String) (chars : List Char) : Option (List Char) :=
  if beginning.toList.isPrefixOf chars then some (chars.drop beginning.length) else none

def kindOfEnding? (ending : List Char) : Option FileKind :=
  match String.ofList ending with
  | ".log" => some .log
  | ".sst" | ".ldb" => some .table
  | ".blob" => some .blob
  | ".dbtmp" => some .temporary
  | _ => none

def whole? (kind : FileKind) (chars : List Char) : Option FileName :=
  match readNumber? chars with
  | some (number, []) => some ⟨kind, number⟩
  | _ => none

def options? (chars : List Char) : Option FileName :=
  let kind := if ".dbtmp".toList.isSuffixOf chars then FileKind.optionsDraft else .options
  (readNumber? chars).map fun read => ⟨kind, read.1⟩

def ofChars? (chars : List Char) : Option FileName :=
  match after? "MANIFEST-" chars, after? "METADB-" chars, after? "OPTIONS-" chars with
  | some rest, _, _ => whole? .manifest rest
  | _, some rest, _ => whole? .catalog rest
  | _, _, some rest => options? rest
  | none, none, none => do
    let (number, ending) ← readNumber? chars
    (kindOfEnding? ending).map fun kind => ⟨kind, number⟩

def ofString? (name : String) : Option FileName :=
  ofChars? name.toList

end FileName

end NaturalKey.Database
