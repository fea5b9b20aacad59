import NaturalKey.CommandLine.Run

/-!
The program, as it is run: it reads the files that its arguments name, keeps records in memory, and
writes what the run leaves on its outputs.
-/

set_option autoImplicit false

namespace NaturalKey.CommandLine

def logVariable : String := "RUST_LOG"

/-- Opens a path for reading. A directory is noticed only when it is read from, and the error then
does not name it. -/
def look (path : String) : IO Source := do
  try
    let bytes ← IO.FS.readBinFile path
    pure (.file bytes.toList)
  catch
    | .inappropriateType none .. => pure .directory
    | .inappropriateType (some _) .. => pure (.missing .notADirectory)
    | .invalidArgument (some _) .. => pure (.missing .nameTooLong)
    | _ => pure (.missing .notFound)

def filesOf (arguments : List String) : IO (List NamedSource) := do
  match begin arguments with
  | .error _ => pure []
  | .ok arguments =>
    (arguments.schema?.toList ++ arguments.seed?.toList).mapM fun path => do
      pure ⟨path, ← look path⟩

end NaturalKey.CommandLine

open NaturalKey CommandLine in
def main (arguments : List String) : IO UInt32 := do
  let log? ← IO.getEnv logVariable
  let files ← filesOf arguments
  let source (path : String) : Source :=
    match files.find? fun file => file.path == path with
    | some file => file.source
    | none => .missing .notFound
  let outcome := runWithoutDatabases source log? arguments
  IO.print outcome.stdout
  IO.eprint outcome.stderr
  pure outcome.exitCode.toUInt32
