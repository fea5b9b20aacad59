import NaturalKey.Json.Text
import NaturalKey.Tag

/-!
Records. A record is known by its natural key: the field that identifies records of its type and the
value it has there. Everything else is in its attributes. Questions are about a single field: which
records have this value there?
-/

set_option autoImplicit false

namespace NaturalKey

structure Filter where
  field : String
  value : String
deriving DecidableEq, Repr

def Filter.text (filter : Filter) : String :=
  filter.field ++ "=" ++ filter.value

structure Record where
  tenant : Tenant
  recordType : RecordType
  keyField : String
  id : RecordId
  attributes : Json.Object

namespace Record

/-- Sets an attribute; one of the same name is replaced. -/
def withAttribute (record : Record) (name : String) (value : Json.Value) : Record :=
  { record with attributes := record.attributes.put name value }

/-- Whether a record answers a question: one about its key field by its id and nothing else, any
other one by an attribute that is a string. -/
def answers (record : Record) (filter : Filter) : Bool :=
  if filter.field = record.keyField then
    record.id.text == filter.value
  else
    match record.attributes.get? filter.field with
    | some (.string value) => value == filter.value
    | _ => false

/-- The record as a JSON object, its key before its attributes. -/
def toJson (record : Record) : Json :=
  .object [
    ("tenant", .string record.tenant.text),
    ("type", .string record.recordType.text),
    ("key_field", .string record.keyField),
    ("id", .string record.id.text),
    ("attributes", record.attributes.toJson)]

def text (record : Record) : String :=
  record.toJson.compact

def prettyText (record : Record) : String :=
  record.toJson.pretty 0

end Record

end NaturalKey
