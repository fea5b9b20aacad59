import NaturalKey.Registry

/-!
The arguments of the command line, taken from left to right. The value of an option may follow it
as the next argument or, after an equals sign, in the same one. A value that follows is checked only
when the next positional argument or known option is reached, or the arguments end.
-/

set_option autoImplicit false

namespace NaturalKey.CommandLine

inductive Setting where
  | seed
  | dbPath
  | tenant
  | schema
  | key
deriving DecidableEq, Repr

namespace Setting

def all : List Setting :=
  [.seed, .dbPath, .tenant, .schema, .key]

def name : Setting → String
  | .seed => "seed"
  | .dbPath => "db-path"
  | .tenant => "tenant"
  | .schema => "schema"
  | .key => "key"

/-- The option with the name of its value, as messages show it. -/
def usage : Setting → String
  | .seed => "--seed <SEED>"
  | .dbPath => "--db-path <DB_PATH>"
  | .tenant => "--tenant <TENANT>"
  | .schema => "--schema <SCHEMA>"
  | .key => "--key <TYPE=FIELD>"

def ofName? (name : String) : Option Setting :=
  all.find? fun setting => setting.name == name

/-- The value of these options is a path, which may not be empty. -/
def isPath : Setting → Bool
  | .seed | .dbPath | .schema => true
  | .tenant | .key => false

end Setting

/-- The options that stand alone and end the program when they are reached. -/
inductive Flag where
  | help
  | version
deriving DecidableEq, Repr

namespace Flag

def name : Flag → String
  | .help => "help"
  | .version => "version"

def letter : Flag → Char
  | .help => 'h'
  | .version => 'V'

def all : List Flag := [.help, .version]

def ofName? (name : String) : Option Flag :=
  all.find? fun flag => flag.name == name

def ofLetter? (letter : Char) : Option Flag :=
  all.find? fun flag => flag.letter == letter

end Flag

inductive UsageError where
  | missing (names : List String)
  | unexpected (argument : String)
  | valueWanted (setting : Setting)
  | repeated (setting : Setting)
  | invalidBinding (text : String) (fault : Fault)
  | valueUnwanted (value : String) (flag : Flag)

/-- What is to be looked up, and where. -/
structure Arguments where
  recordType : String
  id : String
  seed? : Option String
  dbPath? : Option String
  tenant : String
  schema? : Option String
  bindings : List Binding

inductive Request where
  | lookup (arguments : Arguments)
  | show (flag : Flag)

structure Taken where
  positionals : List String
  /-- The option taken last and its value, if that has been reached, both not checked yet. -/
  pending? : Option (Setting × Option String)
  seed? : Option String
  dbPath? : Option String
  tenant? : Option String
  schema? : Option String
  bindings : List Binding
  /-- Two dashes have been taken: what follows are positional arguments. -/
  onlyPositionals : Bool

namespace Taken

def nothing : Taken := ⟨[], none, none, none, none, none, [], false⟩

def has (taken : Taken) : Setting → Bool
  | .seed => taken.seed?.isSome
  | .dbPath => taken.dbPath?.isSome
  | .tenant => taken.tenant?.isSome
  | .schema => taken.schema?.isSome
  | .key => false

/-- Checks and keeps the value of an option. Only bindings may be given several times. -/
def keep (taken : Taken) (setting : Setting) (value : String) : Except UsageError Taken :=
  if taken.has setting then
    .error (.repeated setting)
  else if setting.isPath && value.isEmpty then
    .error (.valueWanted setting)
  else
    match setting with
    | .seed => .ok { taken with seed? := some value }
    | .dbPath => .ok { taken with dbPath? := some value }
    | .tenant => .ok { taken with tenant? := some value }
    | .schema => .ok { taken with schema? := some value }
    | .key =>
      match Binding.parse value with
      | .ok binding => .ok { taken with bindings := taken.bindings ++ [binding] }
      | .error fault => .error (.invalidBinding value fault)

def settle (taken : Taken) : Except UsageError Taken :=
  match taken.pending? with
  | none => .ok taken
  | some (setting, none) => .error (.valueWanted setting)
  | some (setting, some value) => { taken with pending? := none }.keep setting value

def positional (taken : Taken) (argument : String) : Except UsageError Taken :=
  if taken.positionals.length < 2 then
    taken.settle.map fun taken => { taken with positionals := taken.positionals ++ [argument] }
  else
    .error (.unexpected argument)

def finish (taken : Taken) : Except UsageError Request := do
  let taken ← taken.settle
  match taken.positionals with
  | [] => .error (.missing ["<RECORD_TYPE>", "<ID>"])
  | [_] => .error (.missing ["<ID>"])
  | recordType :: id :: _ =>
    .ok (.lookup
      { recordType, id
        seed? := taken.seed?
        dbPath? := taken.dbPath?
        tenant := taken.tenant?.getD Tenant.default.text
        schema? := taken.schema?
        bindings := taken.bindings })

end Taken

inductive Shape where
  | separator
  /-- A name after two dashes, with a value after an equals sign if there is one. -/
  | long (name : String) (value? : Option String)
  /-- Letters after one dash, of which the first counts. -/
  | short (letter : Char)
  | plain

def Shape.ofText (argument : String) : Shape :=
  match argument.toList with
  | '-' :: '-' :: [] => .separator
  | '-' :: '-' :: rest =>
    match rest.span (· != '=') with
    | (name, []) => .long (String.ofList name) none
    | (name, _ :: value) => .long (String.ofList name) (some (String.ofList value))
  | '-' :: letter :: _ => .short letter
  | _ => .plain

inductive Progress where
  | more (taken : Taken)
  | done (flag : Flag)

namespace Taken

/-- Takes a long option. An unknown one, or a flag with a value, is noticed before what is pending
is checked. -/
def long (taken : Taken) (name : String) (value? : Option String) : Except UsageError Progress :=
  match Setting.ofName? name with
  | some setting => do
    let taken ← taken.settle
    match value? with
    | some value => (taken.keep setting value).map .more
    | none => .ok (.more { taken with pending? := some (setting, none) })
  | none =>
    match Flag.ofName? name with
    | none => .error (.unexpected ("--" ++ name))
    | some flag =>
      match value? with
      | some value => .error (.valueUnwanted value flag)
      | none => taken.settle.map fun _ => .done flag

def short (taken : Taken) (letter : Char) : Except UsageError Progress :=
  match Flag.ofLetter? letter with
  | some flag => taken.settle.map fun _ => .done flag
  | none => .error (.unexpected (String.ofList ['-', letter]))

/-- Takes an argument that is no option: the value of the option before it, or a positional one. -/
def plain (taken : Taken) (argument : String) : Except UsageError Taken :=
  match taken.pending? with
  | some (setting, none) => .ok { taken with pending? := some (setting, some argument) }
  | _ => taken.positional argument

def step (taken : Taken) (argument : String) : Except UsageError Progress :=
  if taken.onlyPositionals then
    (taken.positional argument).map .more
  else
    match Shape.ofText argument with
    | .separator => .ok (.more { taken with onlyPositionals := true })
    | .long name value? => taken.long name value?
    | .short letter => taken.short letter
    | .plain => (taken.plain argument).map .more

def takeAll (taken : Taken) : List String → Except UsageError Request
  | [] => taken.finish
  | argument :: rest =>
    match taken.step argument with
    | .error error => .error error
    | .ok (.done flag) => .ok (.show flag)
    | .ok (.more taken) => taken.takeAll rest

end Taken

def parse (arguments : List String) : Except UsageError Request :=
  Taken.nothing.takeAll arguments

end NaturalKey.CommandLine
