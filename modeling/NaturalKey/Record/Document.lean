import NaturalKey.Fault
import NaturalKey.Json.Document
import NaturalKey.Json.Skip
import NaturalKey.Record
import NaturalKey.Text

/-!
Records as JSON documents. A record is an object with the members `tenant`, `type`, `key_field`,
`id` and `attributes` in any order, of which the last may be left out and none may be repeated;
other members are passed over. It may also be an array of the five values in this order. Records are
written one after another, each over several lines and with a line break after it, into something
that may run full.
-/

set_option autoImplicit false

/-! ### Tags

A tag is written as the string of its text. A document that holds a blank string is refused as a
whole, so its fault has no position, and what follows the string does not matter then.
-/

namespace NaturalKey.Tag

variable {kind : Kind}

def toJson (tag : Tag kind) : Json :=
  .string tag.text

def parse (text : List UInt8) : Except Fault (Tag kind) :=
  match Json.readString text with
  | .error stop => .error (.document (.malformed (stop.locate .whole text)))
  | .ok step =>
    match ofText step.value with
    | .error fault => .error (.document (.refused fault.text))
    | .ok tag =>
      match step.finish .whole text with
      | .error error => .error (.document (.malformed error))
      | .ok _ => .ok tag

end NaturalKey.Tag

/-! ### Reading -/

namespace NaturalKey.Record

open Json (Reader Step Stop)

/-- The members of a record that are read. -/
inductive Member where
  | tenant
  | recordType
  | keyField
  | id
  | attributes
deriving DecidableEq, Repr

namespace Member

def name : Member → String
  | .tenant => "tenant"
  | .recordType => "type"
  | .keyField => "key_field"
  | .id => "id"
  | .attributes => "attributes"

def all : List Member :=
  [.tenant, .recordType, .keyField, .id, .attributes]

def ofName? (name : String) : Option Member :=
  all.find? fun member => member.name == name

end Member

structure Draft where
  tenant? : Option Tenant
  recordType? : Option RecordType
  keyField? : Option String
  id? : Option RecordId
  attributes? : Option Json.Object

namespace Draft

def empty : Draft := ⟨none, none, none, none, none⟩

def has (draft : Draft) : Member → Bool
  | .tenant => draft.tenant?.isSome
  | .recordType => draft.recordType?.isSome
  | .keyField => draft.keyField?.isSome
  | .id => draft.id?.isSome
  | .attributes => draft.attributes?.isSome

/-- The record, or the first of its members that is missing. -/
def record (draft : Draft) : Except Member Record :=
  match draft.tenant?, draft.recordType?, draft.keyField?, draft.id? with
  | none, _, _, _ => .error .tenant
  | some _, none, _, _ => .error .recordType
  | some _, some _, none, _ => .error .keyField
  | some _, some _, some _, none => .error .id
  | some tenant, some recordType, some keyField, some id =>
    .ok ⟨tenant, recordType, keyField, id, draft.attributes?.getD .empty⟩

end Draft

/-- A refusal inside an object. It is noticed only after a look for the end of the object, which is
taken if it comes next. -/
def refusalInObject (cause : Json.Cause) (rest : List UInt8) : Stop :=
  match Json.skipSpace rest with
  | [] => ⟨cause, [], .unseen⟩
  | b :: rest => if b = 0x7D then ⟨cause, rest, .unseen⟩ else ⟨cause, b :: rest, .seen⟩

/-- A refusal inside an array. It is noticed only after a look for the end of the array, which is
taken if it comes next, or for one comma. -/
def refusalInArray (cause : Json.Cause) (rest : List UInt8) : Stop :=
  match Json.skipSpace rest with
  | [] => ⟨cause, [], .unseen⟩
  | b :: rest =>
    if b = 0x5D then ⟨cause, rest, .unseen⟩
    else if b = 0x2C then ⟨cause, Json.skipSpace rest, .seen⟩
    else ⟨cause, b :: rest, .seen⟩

/-- Reads a tag; `refusal` says where a blank one is noticed. -/
def readTag (kind : Tag.Kind) (refusal : Json.Cause → List UInt8 → Stop) : Reader (Tag kind) :=
  fun bytes =>
    match Json.readString bytes with
    | .error stop => .error stop
    | .ok step =>
      match Tag.ofText step.value with
      | .ok tag => .ok (step.map fun _ => tag)
      | .error fault => .error (refusal (.refused fault.text) step.rest)

/-- How deeply the values inside the attributes may be nested: the record and its attributes are
two of the levels of a document. -/
def attributeBudget : Nat := Json.depthLimit - 2

def readMember (name : String) (draft : Draft) : Reader Draft := fun bytes =>
  match Member.ofName? name with
  | none => (Json.afterColon Json.skipValue bytes).map (Step.map fun _ => draft)
  | some member =>
    if draft.has member then
      .error (refusalInObject (.repeatedMember member.name) bytes)
    else
      match member with
      | .tenant =>
        (Json.afterColon (readTag .tenant refusalInObject) bytes).map
          (Step.map fun tag => { draft with tenant? := some tag })
      | .recordType =>
        (Json.afterColon (readTag .recordType refusalInObject) bytes).map
          (Step.map fun tag => { draft with recordType? := some tag })
      | .keyField =>
        (Json.afterColon Json.readString bytes).map
          (Step.map fun text => { draft with keyField? := some text })
      | .id =>
        (Json.afterColon (readTag .id refusalInObject) bytes).map
          (Step.map fun tag => { draft with id? := some tag })
      | .attributes =>
        (Json.afterColon (Json.readObject attributeBudget) bytes).map
          (Step.map fun object => { draft with attributes? := some object })

def readMembers : Reader Record := fun bytes =>
  match Json.readMembers readMember true Draft.empty bytes (Json.length_le bytes) with
  | .error stop => .error stop
  | .ok step =>
    match step.value.record with
    | .ok record => .ok ⟨record, step.rest, step.shorter⟩
    | .error member => Json.fail (.missingMember member.name) step.rest

def readItem {α : Type} (index : Nat) (reader : Reader α) : Reader α := fun bytes =>
  match Json.nextItem (index == 0) bytes with
  | .error stop => .error stop
  | .ok (.closed rest _) => Json.fail (.tooFewItems index) rest
  | .ok (.more _ rest le) => (reader rest).map (Step.weaken le)

def closeArray : Reader Unit := fun bytes =>
  match Json.afterSpace bytes with
  | ⟨[], _⟩ => Json.blame .endInArray []
  | ⟨b :: rest, le⟩ =>
    if b = 0x5D then
      .ok ⟨(), rest, le⟩
    else if b = 0x2C then
      match Json.skipSpace rest with
      | [] => Json.blame .trailingCharacters []
      | c :: rest =>
        Json.blame (if c = 0x5D then .trailingComma else .trailingCharacters) (c :: rest)
    else
      Json.blame .trailingCharacters (b :: rest)

/-- Reads the attributes, if the array holds them, and its end. -/
def readLastItem : Reader Json.Object := fun bytes =>
  match Json.nextItem false bytes with
  | .error stop => .error stop
  | .ok (.closed rest shorter) => .ok ⟨.empty, rest, shorter⟩
  | .ok (.more _ rest le) => do
    let object ← Json.readObject attributeBudget rest
    let close ← closeArray object.rest
    .ok ⟨object.value, close.rest,
      Nat.lt_of_lt_of_le (Nat.lt_trans close.shorter object.shorter) le⟩

def readItems : Reader Record := fun bytes => do
  let tenant ← readItem 0 (readTag .tenant refusalInArray) bytes
  let recordType ← readItem 1 (readTag .recordType refusalInArray) tenant.rest
  let keyField ← readItem 2 Json.readString recordType.rest
  let id ← readItem 3 (readTag .id refusalInArray) keyField.rest
  let attributes ← readLastItem id.rest
  .ok ⟨⟨tenant.value, recordType.value, keyField.value, id.value, attributes.value⟩,
    attributes.rest, by
      have := tenant.shorter
      have := recordType.shorter
      have := keyField.shorter
      have := id.shorter
      have := attributes.shorter
      omega⟩

/-- Reads a record in either form. -/
def read : Reader Record := fun bytes =>
  match Json.afterSpace bytes with
  | ⟨[], _⟩ => Json.blame .endInValue []
  | ⟨b :: rest, le⟩ =>
    if b = 0x7B then
      (readMembers rest).map (Step.weaken (Json.length_le_of_cons_le le))
    else if b = 0x5B then
      (readItems rest).map (Step.weaken (Json.length_le_of_cons_le le))
    else
      Json.mismatch .record b rest

def parse (text : List UInt8) : Except Fault Record :=
  match read.readAll .whole text with
  | .ok record => .ok record
  | .error error => .error (.document (.malformed error))

end NaturalKey.Record

/-! ### Writing -/

namespace NaturalKey

/-- What takes bytes: how many more it has room for, if that is limited, and what it has taken. -/
structure Sink where
  room? : Option Nat
  taken : List UInt8
deriving DecidableEq, Repr

namespace Sink

def unlimited : Sink := ⟨none, []⟩

def limited (room : Nat) : Sink := ⟨some room, []⟩

def take (sink : Sink) (bytes : List UInt8) : Bool × Sink :=
  match sink.room? with
  | none => (true, ⟨none, sink.taken ++ bytes⟩)
  | some room =>
    (bytes.length ≤ room, ⟨some (room - bytes.length), sink.taken ++ bytes.take room⟩)

/-- Writes a record and then a line break. Which of them does not fit makes two faults. -/
def write (sink : Sink) (record : Record) : Except Fault Unit × Sink :=
  match sink.take (Utf8.encode record.prettyText) with
  | (false, sink) => (.error (.document (.io .sinkFull)), sink)
  | (true, sink) =>
    match sink.take (Utf8.encode "\n") with
    | (false, sink) => (.error (.io .sinkFull), sink)
    | (true, sink) => (.ok (), sink)

end Sink

end NaturalKey
