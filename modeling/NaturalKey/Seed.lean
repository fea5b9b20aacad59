import NaturalKey.Csv
import NaturalKey.Fault
import NaturalKey.Json.Document
import NaturalKey.Record
import NaturalKey.Store
import NaturalKey.Traced

/-!
Seed files. A row has five columns, found by their names: the type, the key field and the id of a
record, and, if need be, its tenant and its attributes as a JSON object. Where no column has a
readable name the columns stand in the order `tenant`, `type`, `key`, `id`, `attributes`.
-/

set_option autoImplicit false

namespace NaturalKey.Seed

inductive Column where
  | tenant
  | recordType
  | key
  | id
  | attributes
deriving DecidableEq, Repr

namespace Column

def name : Column → String
  | .tenant => "tenant"
  | .recordType => "type"
  | .key => "key"
  | .id => "id"
  | .attributes => "attributes"

def all : List Column :=
  [.tenant, .recordType, .key, .id, .attributes]

/-- The columns that a header has to name. -/
def required : List Column :=
  [.recordType, .key, .id]

def ofName? (name : String) : Option Column :=
  all.find? fun column => column.name == name

end Column

abbrev Fields : Type :=
  List (Column × String)

def Fields.get? (fields : Fields) (column : Column) : Option String :=
  (fields.find? fun field => field.1 == column).map Prod.snd

/-- The texts of a row by column. -/
structure Row where
  tenant : String
  recordType : String
  key : String
  id : String
  attributes : String
deriving DecidableEq, Repr

namespace Row

/-- Walks along the names with the texts. There must be a text for every name, known or not. -/
def fieldsByName (place : Csv.Place) (fields : Fields) :
    List String → List String → Except Csv.Fault Fields
  | [], _ => .ok fields
  | name :: names, texts =>
    match Column.ofName? name with
    | some column =>
      if (fields.get? column).isSome then
        .error (.repeatedColumn place column.name)
      else
        match texts with
        | [] => .error (.endOfRow place)
        | text :: texts => fieldsByName place ((column, text) :: fields) names texts
    | none =>
      match texts with
      | [] => .error (.endOfRow place)
      | _ :: texts => fieldsByName place fields names texts

/-- The row of these fields. A column that is not required reads as empty if it is missing. -/
def ofFields (place : Csv.Place) (fields : Fields) : Except Csv.Fault Row :=
  match Column.required.find? fun column => (fields.get? column).isNone with
  | some column => .error (.missingColumn place column.name)
  | none =>
    let text (column : Column) : String := (fields.get? column).getD ""
    .ok ⟨text .tenant, text .recordType, text .key, text .id, text .attributes⟩

def ofPositions (place : Csv.Place) : List String → Except Csv.Fault Row
  | tenant :: recordType :: key :: id :: rest => .ok ⟨tenant, recordType, key, id, rest.headD ""⟩
  | few => .error (.tooFewFields place few.length)

def read (names? : Option (List String)) (row : Csv.Row) : Except Csv.Fault Row := do
  let texts ← row.texts
  match names? with
  | some names => ofFields row.place (← fieldsByName row.place [] names texts)
  | none => ofPositions row.place texts

/-- The tenant of a row, the default one if none is named. -/
def tenantTag (row : Row) : Except Fault Tenant :=
  if row.tenant.isEmpty then .ok Tenant.default else Tag.ofText row.tenant

def attributesObject (row : Row) : Except Fault Json.Object :=
  if row.attributes.isEmpty then
    .ok .empty
  else
    match Json.parse (Utf8.encode row.attributes) with
    | .error error => .error (.document (.malformed error))
    | .ok value =>
      match value.object? with
      | some object => .ok object
      | none => .error (.invalid (.attributesNotObject value.json))

def record (row : Row) : Except Fault Record := do
  let tenant ← row.tenantTag
  if row.key.isEmpty then
    .error (.invalid .emptyKey)
  let attributes ← row.attributesObject
  let recordType ← Tag.ofText row.recordType
  let id ← Tag.ofText row.id
  .ok ⟨tenant, recordType, row.key, id, attributes⟩

end Row

def recordOfRow (names? : Option (List String)) (row : Csv.Row) : Except Fault Record :=
  match Row.read names? row with
  | .error fault => .error (.csv fault)
  | .ok row => row.record

/-- What each row of a seed file comes to, in order. -/
def records (text : List UInt8) : List (Except Fault Record) :=
  let table := Csv.Table.ofText text
  table.rows.map (recordOfRow table.names?)

/-! ### Loading

Rows that come to no record and records that the store refuses are told of and left out; they change
nothing.
-/

/-- A store being loaded: how many records it has taken, and what was told. -/
structure Loading (σ : Type) where
  store : σ
  loaded : Nat
  events : List Event

namespace Loading

variable {σ : Type} [Store σ]

def add (loading : Loading σ) (row : Except Fault Record) : Loading σ :=
  match row with
  | .error fault => { loading with events := loading.events ++ [.rowUnreadable fault] }
  | .ok record =>
    match Store.insert loading.store record with
    | .error fault => { loading with events := loading.events ++ [.rowUnstorable fault] }
    | .ok store => { loading with store, loaded := loading.loaded + 1 }

def ofRows (store : σ) (rows : List (Except Fault Record)) : Loading σ :=
  rows.foldl add ⟨store, 0, []⟩

end Loading

variable {σ : Type} [Store σ]

/-- What the rows at an opened path come to. A directory has none. -/
def rowsOf : Source → List (Except Fault Record)
  | .file bytes => records bytes
  | _ => []

/-- Loads the seed file at a path; nothing is loaded if it cannot be opened. -/
def load (store : σ) (file : NamedSource) : Traced σ :=
  match file.source with
  | .missing error => .fail (.unopened error)
  | source =>
    let loading := Loading.ofRows store (rowsOf source)
    ⟨loading.events ++ [.seeded loading.loaded file.path], .ok loading.store⟩

end NaturalKey.Seed
