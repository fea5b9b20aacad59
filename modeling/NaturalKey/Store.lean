import NaturalKey.Fault
import NaturalKey.Record.Document

/-!
Stores of records. Records are kept by tenant and type, and every question is about one such table.
In memory a table has its records in the order in which they were added; nothing is refused and
nothing replaced. Under keys a record replaces the one of the same key.
-/

set_option autoImplicit false

namespace NaturalKey

class Store (σ : Type) where
  /-- Adds a record, unless the store cannot hold it. -/
  insert (store : σ) (record : Record) : Except Fault σ
  all (store : σ) (tenant : Tenant) (recordType : RecordType) : Except Fault (List Record)
  query (store : σ) (tenant : Tenant) (recordType : RecordType) (filter : Filter) :
    Except Fault (List Record)

/-- Whose records of which type stand together. -/
structure TableName where
  tenant : Tenant
  recordType : RecordType
deriving DecidableEq, Repr

instance : Ord TableName :=
  ⟨compareLex (compareOn (·.tenant.text)) (compareOn (·.recordType.text))⟩

instance : Std.TransOrd TableName :=
  inferInstanceAs (Std.TransCmp (compareLex _ _))

def Record.tableName (record : Record) : TableName :=
  ⟨record.tenant, record.recordType⟩

/-- Records by their table. A table begins with its first record. -/
structure MemoryStore where
  tables : SortedMap TableName (List Record)

namespace MemoryStore

def empty : MemoryStore := ⟨.empty⟩

def rows (store : MemoryStore) (name : TableName) : List Record :=
  (store.tables.get? name).getD []

def insert (store : MemoryStore) (record : Record) : MemoryStore :=
  ⟨store.tables.put record.tableName (store.rows record.tableName ++ [record])⟩

def all (store : MemoryStore) (tenant : Tenant) (recordType : RecordType) : List Record :=
  store.rows ⟨tenant, recordType⟩

def query (store : MemoryStore) (tenant : Tenant) (recordType : RecordType) (filter : Filter) :
    List Record :=
  (store.all tenant recordType).filter (·.answers filter)

instance : Store MemoryStore where
  insert store record := .ok (store.insert record)
  all store tenant recordType := .ok (store.all tenant recordType)
  query store tenant recordType filter := .ok (store.query tenant recordType filter)

end MemoryStore

/-! ### Keys

The key of a record is made of its tenant, type and id, so a table is a run of keys that start
alike. What is kept under a key is the text of the record, which is read again whenever its table is
asked for.
-/

/-- Texts by key, in ascending order of the bytes of the keys. -/
structure KeyedStore where
  texts : SortedMap (List UInt8) (List UInt8)

namespace KeyedStore

def empty : KeyedStore := ⟨.empty⟩

/-- The byte between the parts of a key. -/
def separator : UInt8 := 0x1F

/-- What the keys of a table start with. -/
def tableStart (tenant : Tenant) (recordType : RecordType) : List UInt8 :=
  Utf8.encode tenant.text ++ separator :: Utf8.encode recordType.text ++ [separator]

/-- The key of a record; no part of it may contain the separator. -/
def key (record : Record) : Except Fault (List UInt8) :=
  let parts := [record.tenant.text, record.recordType.text, record.id.text]
  if parts.any fun part => (Utf8.encode part).contains separator then
    .error (.invalid .reservedCharacter)
  else
    .ok (tableStart record.tenant record.recordType ++ Utf8.encode record.id.text)

def insert (store : KeyedStore) (record : Record) : Except Fault KeyedStore :=
  match key record with
  | .ok bytes => .ok ⟨store.texts.put bytes (Utf8.encode record.text)⟩
  | .error fault => .error fault

/-- The texts from a key on, as long as their keys start with it. -/
def textsFrom (store : KeyedStore) (start : List UInt8) : List (List UInt8) :=
  let reached := store.texts.entries.dropWhile fun entry => compare entry.1 start == .lt
  (reached.takeWhile fun entry => start.isPrefixOf entry.1).map Prod.snd

/-- The records of a table in ascending order of their ids. One text that cannot be read makes the
table unreadable. -/
def all (store : KeyedStore) (tenant : Tenant) (recordType : RecordType) :
    Except Fault (List Record) :=
  (store.textsFrom (tableStart tenant recordType)).mapM Record.parse

def query (store : KeyedStore) (tenant : Tenant) (recordType : RecordType) (filter : Filter) :
    Except Fault (List Record) := do
  let records ← store.all tenant recordType
  .ok (records.filter (·.answers filter))

instance : Store KeyedStore where
  insert := insert
  all := all
  query := query

end KeyedStore

/-! ### Databases

What is put into a database is written to its log; when it is opened the next time, what the log
holds makes a table. To a lookup it is the keyed store.
-/

structure Database where
  store : KeyedStore
  tables : List Nat
  log : Nat
  /-- Whether anything is written in its log. -/
  isLogged : Bool

namespace Database

def empty : Database := ⟨.empty, [], 0, false⟩

def insert (database : Database) (record : Record) : Except Fault Database :=
  (database.store.insert record).map fun store => { database with store, isLogged := true }

instance : Store Database where
  insert := insert
  all database := database.store.all
  query database := database.store.query

end Database

end NaturalKey
