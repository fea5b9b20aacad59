import NaturalKey.Registry
import NaturalKey.Store
import NaturalKey.Traced

/-!
Looking records up. A lookup knows whose records it is about and which fields are keys, and finds
exactly one record or says why it does not.
-/

set_option autoImplicit false

namespace NaturalKey

structure Lookup (σ : Type) where
  store : σ
  registry : Registry
  tenant : Tenant

namespace Lookup

variable {σ : Type}

def new (store : σ) (registry : Registry) : Lookup σ :=
  ⟨store, registry, Tenant.default⟩

def forTenant (lookup : Lookup σ) (tenant : Tenant) : Lookup σ :=
  { lookup with tenant }

/-- The only record among these, which answer the question. -/
def only (recordType : RecordType) (filter : Filter) (records : List Record) :
    Except Fault Record :=
  match records with
  | [] => .error (.notFound recordType filter)
  | [record] => .ok record
  | several => .error (.multipleMatches recordType filter several.length)

def keyField (lookup : Lookup σ) (recordType : RecordType) : Except Fault String :=
  match lookup.registry.field? recordType with
  | some field => .ok field
  | none => .error (.unknownType recordType)

variable [Store σ]

def findOne (lookup : Lookup σ) (recordType : RecordType) (filter : Filter) : Traced Record := do
  let records ← Store.query lookup.store lookup.tenant recordType filter
  Traced.tell (.lookedUp lookup.tenant recordType filter records.length)
  only recordType filter records

/-- The only record of the tenant and of a type with this value in the key field of the type. White
space around the type does not count. -/
def findById (lookup : Lookup σ) (typeText idText : String) : Traced Record := do
  let id : RecordId ← Tag.ofText idText
  let recordType ← Tag.ofText (Text.trim typeText)
  let field ← lookup.keyField recordType
  lookup.findOne recordType ⟨field, id.text⟩

end Lookup

end NaturalKey
