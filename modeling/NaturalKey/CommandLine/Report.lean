import NaturalKey.CommandLine.Arguments
import NaturalKey.Text

/-!
What the command line shows when there is no record to show: help, the version, what is wrong with
the arguments, and the fault that ended a lookup.
-/

set_option autoImplicit false

namespace NaturalKey.CommandLine

def unlines (lines : List String) : String :=
  lines.foldr (fun line text => line ++ "\n" ++ text) ""

def usageLine : String :=
  "Usage: reclookup [OPTIONS] <RECORD_TYPE> <ID>"

def helpText : String := unlines [
  usageLine,
  "",
  "Arguments:",
  "  <RECORD_TYPE>  Record type to look up, e.g. User",
  "  <ID>           Natural-key value of the record",
  "",
  "Options:",
  "      --seed <SEED>        CSV file of records to load before the lookup",
  "      --db-path <DB_PATH>  Path to persistent database (optional). If provided, uses RocksDB",
  "      --tenant <TENANT>    Tenant the lookup is scoped to [default: default]",
  "      --schema <SCHEMA>    JSON file mapping record types to key fields",
  "      --key <TYPE=FIELD>   Key field override, TYPE=FIELD (repeatable)",
  "  -h, --help               Print help",
  "  -V, --version            Print version"]

def versionText : String :=
  "reclookup 0.1.0\n"

def Flag.text : Flag → String
  | .help => helpText
  | .version => versionText

/-- Where a text stands among the control sequences of a terminal. -/
inductive Control where
  | outside
  | escape
  /-- After an escape character and marks that ask for one more character. -/
  | escapeMark
  /-- In parameters, which a letter ends. -/
  | parameters
  /-- In a command text, which a bell ends. -/
  | command
  | device
  | deviceParameters
  | deviceMark
  /-- In a text that is not shown at all. -/
  | hidden
deriving DecidableEq, Repr

def isLineSpace (c : Char) : Bool :=
  c == '\t' || c == '\n' || c == '\x0c' || c == '\r'

/-- Whether a character of ASCII has a shape; the space counts as one. -/
def isVisible (c : Char) : Bool :=
  ' ' ≤ c && c ≤ '~'

/-- Whether a character is encoded with the byte that ends a text of a terminal with eight bits. -/
def holdsTerminator (c : Char) : Bool :=
  0x80 ≤ c.toNat && (Utf8.encodeChar c).contains 0x9C

/-- Goes on by a visible character in a sequence that has a form. -/
def Control.nextInSequence : Control → Char → Control
  | .escape, c =>
    if c < '0' then .escapeMark
    else if c = '[' then .parameters
    else if c = ']' then .command
    else if c = 'P' then .device
    else if c = 'X' ∨ c = '^' ∨ c = '_' then .hidden
    else .outside
  | .escapeMark, c => if c < '0' then .escapeMark else .outside
  | .parameters, c => if c < '@' then .parameters else .outside
  | .device, c => if c < '0' then .deviceMark else if c < '@' then .deviceParameters else .hidden
  | .deviceParameters, c =>
    if c < '0' then .deviceMark else if c < '<' then .deviceParameters else .hidden
  | .deviceMark, c => if c < '0' then .deviceMark else .hidden
  | control, _ => control

/-- Goes on by a character, and says whether it is shown. -/
def Control.next (control : Control) (c : Char) : Control × Bool :=
  if c = '\x1b' then (.escape, false)
  else if c = '\x18' ∨ c = '\x1a' then (.outside, false)
  else
    match control with
    | .outside => (.outside, isLineSpace c || isVisible c || '\x7f' < c)
    | .command => (if c = '\x07' then .outside else .command, false)
    | .hidden => (if holdsTerminator c then .outside else .hidden, false)
    | .escape | .escapeMark | .parameters =>
      if isVisible c then (control.nextInSequence c, false) else (control, isLineSpace c)
    | .device | .deviceParameters | .deviceMark =>
      if isVisible c then (control.nextInSequence c, false) else (control, false)

/-- Goes on by a character after one that is shown. Shown characters come in runs: a run takes in
all that can be shown, and the sequence in which it began goes on behind it. -/
def Control.nextInRun (control : Control) (c : Char) : Control × Bool :=
  if c = '\x1b' then (.escape, false)
  else if c = '\x18' ∨ c = '\x1a' then (.outside, false)
  else if '\x7f' < c then (.outside, true)
  else (control, isLineSpace c || isVisible c)

/-- What is left of a text when a terminal's control sequences and characters are taken out of it;
white space stays. -/
def plainText (text : String) : String :=
  String.ofList (shown .outside false text.toList)
where
  shown (control : Control) (inRun : Bool) : List Char → List Char
    | [] => []
    | c :: rest =>
      match if inRun then control.nextInRun c else control.next c with
      | (control, true) => c :: shown control true rest
      | (control, false) => shown control false rest

/-- The text between single quotes, as far as a terminal shows it. -/
def inQuotes (text : String) : String :=
  "'" ++ plainText text ++ "'"

def UsageError.text : UsageError → String
  | .missing names =>
    names.foldl (fun text name => text ++ "\n  " ++ name)
      "error: the following required arguments were not provided:"
  | .unexpected argument => "error: unexpected argument " ++ inQuotes argument ++ " found"
  | .valueWanted setting =>
    "error: a value is required for " ++ inQuotes setting.usage ++ " but none was supplied"
  | .repeated setting =>
    "error: the argument " ++ inQuotes setting.usage ++ " cannot be used multiple times"
  | .invalidBinding value fault =>
    "error: invalid value " ++ inQuotes value ++ " for " ++ inQuotes Setting.key.usage ++ ": " ++
      fault.text
  | .valueUnwanted value flag =>
    "error: unexpected value " ++ inQuotes value ++ " for " ++ inQuotes ("--" ++ flag.name) ++
      " found; no more were expected"

def UsageError.report (error : UsageError) : String :=
  unlines [error.text, "", usageLine, "", "For more information, try '--help'."]

/-- The fault with what is behind it and what may help. -/
def faultReport (fault : Fault) : String :=
  let optional (label : String) (text? : Option String) : List String :=
    match text? with
    | some text => [label ++ text]
    | none => []
  unlines (
    ["Error: " ++ fault.text, "    Diagnostic severity: error"] ++
    optional "    Caused by: " fault.cause? ++
    optional "diagnostic help: " fault.help? ++
    optional "diagnostic code: " fault.code? ++
    [""])

end NaturalKey.CommandLine
