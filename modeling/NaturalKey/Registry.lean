import NaturalKey.Fault
import NaturalKey.Json.Document
import NaturalKey.Traced

/-!
Registries: which field is the natural key of records of a type. They are made in layers: the types
known without being told, over them the entries of a schema, and over those the bindings. A schema
is a JSON object from record types to key fields, a binding a record type and its key field written
as `TYPE=FIELD`.
-/

set_option autoImplicit false

namespace NaturalKey

/-- Key fields by the text of the record type. A later one for the same type replaces the first. -/
structure Registry where
  fields : SortedMap String String

namespace Registry

def empty : Registry := ⟨.empty⟩

/-- The types that are known without being told. -/
def builtIn : List (RecordType × String) := [
  (⟨"User", by decide⟩, "user_id"),
  (⟨"PaymentTransactions", by decide⟩, "payment_transaction_id"),
  (⟨"Project", by decide⟩, "project_id")]

/-- The key field of a type, if it has one. -/
def field? (registry : Registry) (recordType : RecordType) : Option String :=
  registry.fields.get? recordType.text

def size (registry : Registry) : Nat :=
  registry.fields.size

/-- Sets the key field of a type, as it is written. It must not be blank. -/
def register (registry : Registry) (recordType : RecordType) (field : String) :
    Except Fault Registry :=
  if Text.isBlank field then
    .error (.invalid (.blankKeyField recordType))
  else
    .ok ⟨registry.fields.put recordType.text field⟩

def default : Registry :=
  ⟨SortedMap.ofList (builtIn.map fun (recordType, field) => (recordType.text, field))⟩

end Registry

/-! ### Bindings -/

structure Binding where
  recordType : RecordType
  field : String
deriving DecidableEq, Repr

namespace Binding

def splitAtEquals? (text : String) : Option (String × String) :=
  match text.toList.span (· != '=') with
  | (_, []) => none
  | (before, _ :: after) => some (String.ofList before, String.ofList after)

/-- Reads a binding; white space around the type and around the field does not count. A missing
field is noticed before a missing type. -/
def parse (text : String) : Except Fault Binding :=
  match splitAtEquals? text with
  | none => .error (.invalid (.notABinding text))
  | some (before, after) =>
    let field := Text.trim after
    if field.isEmpty then
      .error (.invalid (.noKeyField text))
    else
      match Tag.ofText (Text.trim before) with
      | .ok recordType => .ok ⟨recordType, field⟩
      | .error fault => .error fault

end Binding

/-! ### Layers -/

/-- The entries of a schema by record type, neither of the two being checked. -/
abbrev Schema : Type := SortedMap String String

namespace Schema

def parse (text : List UInt8) : Except Fault Schema :=
  match Json.readStringMap.readAll .stream text with
  | .ok schema => .ok schema
  | .error error => .error (.document (.malformed error))

def read (source : Source) : Except Fault Schema :=
  match source with
  | .missing error => .error (.io (.os error))
  | .directory => .error (.document (.io (.os .isADirectory)))
  | .file bytes => parse bytes

end Schema

namespace Registry

/-- Registers an entry of a schema, whose type is checked before its field. -/
def addEntry (registry : Registry) (entry : String × String) : Except Fault Registry := do
  let recordType ← Tag.ofText entry.1
  registry.register recordType entry.2

/-- Registers the entries of a schema in the order of their types. -/
def addSchema (registry : Registry) (schema : Schema) : Except Fault Registry :=
  schema.entries.foldlM addEntry registry

def addBindings (registry : Registry) (bindings : List Binding) : Except Fault Registry :=
  bindings.foldlM (fun registry binding => registry.register binding.recordType binding.field)
    registry

/-- The registry with the schema's entries, if there is a schema. -/
def withSchema (registry : Registry) : Option NamedSource → Traced Registry
  | none => pure registry
  | some schema => do
    let entries ← Schema.read schema.source
    let registry ← registry.addSchema entries
    Traced.tell (.schemaLoaded schema.path)
    pure registry

def ofLayers (schema : Option NamedSource) (bindings : List Binding) : Traced Registry := do
  let registry ← Registry.default.withSchema schema
  registry.addBindings bindings

end Registry

end NaturalKey
