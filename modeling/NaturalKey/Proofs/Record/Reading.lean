import NaturalKey.Proofs.Json.DoubleText
import NaturalKey.Proofs.Json.Pretty
import NaturalKey.Proofs.Json.Reading
import NaturalKey.Proofs.Tag
import NaturalKey.Record.Document

/-!
Reading a record from any text that spells it. What a member adds to a draft does not depend on
where it stands, only on whether one of its name was there before.
-/

set_option autoImplicit false

namespace NaturalKey

open Json (Agrees Cause EndsNumeral Space Spells SpellsMembers Takes)

namespace Json

/-- An object is read if it nests one level deeper than the budget of its members, and of members
with the same name the last counts. -/
theorem agrees_readObject_members_of_spells {budget : Nat} {members : List (String × Json)}
    {text space rest : List UInt8} (h : Spells (.object members) text) (spaces : Space space) :
    Agrees (readObject budget (space ++ (text ++ rest)))
      (if (object members).depth ≤ budget + 1 then .ok (Object.empty.putAll members)
        else .error .tooDeep) rest := by
  cases h with
  | @object _ bytes spelled =>
    have levels : (object members).depth ≤ budget + 1 ↔ depthOfMembers members ≤ budget :=
      Nat.succ_le_succ_iff
    have read := agrees_readMembers_readValue
      (fun entry _ => agrees_readValue budget entry.2) spelled rest
    rw [foldlM_putWithin] at read
    simp only [levels]
    exact agrees_readObject_members spaces read

theorem agrees_readObject {budget : Nat} {object : Object} {text space rest : List UInt8}
    (h : Spells object.toJson text) (spaces : Space space) :
    Agrees (readObject budget (space ++ (text ++ rest)))
      (if object.toJson.depth ≤ budget + 1 then .ok object else .error .tooDeep) rest := by
  have read : Agrees (readObject budget (space ++ (text ++ rest))) _ rest :=
    agrees_readObject_members_of_spells h spaces
  rwa [Object.putAll_empty_members] at read

end Json

namespace Record

theorem takes_readTag {kind : Tag.Kind} (tag : Tag kind)
    (refusal : Cause → List UInt8 → Json.Stop) {text space : List UInt8}
    (h : Spells (.string tag.text) text) (spaces : Space space) (rest : List UInt8) :
    Takes (readTag kind refusal (space ++ (text ++ rest))) tag rest := by
  obtain ⟨shorter, read⟩ := Json.takes_readString h spaces rest
  simp only [readTag, read, Tag.ofText_text]
  exact ⟨shorter, rfl⟩

/-! ### Members -/

def value (record : Record) : Member → Json
  | .tenant => .string record.tenant.text
  | .recordType => .string record.recordType.text
  | .keyField => .string record.keyField
  | .id => .string record.id.text
  | .attributes => record.attributes.toJson

theorem Member.ofName?_name (member : Member) : Member.ofName? member.name = some member := by
  cases member <;> decide

theorem Member.ofName?_eq_some_iff {name : String} {member : Member} :
    Member.ofName? name = some member ↔ name = member.name := by
  constructor
  · intro found
    rw [ofName?] at found
    have same := List.find?_some found
    exact (beq_iff_eq.mp same).symm
  · rintro rfl
    exact ofName?_name member

/-- The attributes are not nested too deep to be read, which is to 126 levels. -/
def Shallow (record : Record) : Prop :=
  record.attributes.toJson.depth ≤ attributeBudget + 1

instance (record : Record) : Decidable record.Shallow :=
  inferInstanceAs (Decidable (_ ≤ _))

/-- A member of the record is added to a draft, unless it nests too deep. -/
def adopt (record : Record) (draft : Draft) : Member → Except Cause Draft
  | .tenant => .ok { draft with tenant? := some record.tenant }
  | .recordType => .ok { draft with recordType? := some record.recordType }
  | .keyField => .ok { draft with keyField? := some record.keyField }
  | .id => .ok { draft with id? := some record.id }
  | .attributes =>
    if record.Shallow then
      .ok { draft with attributes? := some record.attributes }
    else
      .error .tooDeep

/-- What a member of the record comes to, given what those before it have come to. -/
def adoptOnce (record : Record) (draft : Draft) (member : Member) : Except Cause Draft :=
  if draft.has member then .error (.repeatedMember member.name) else record.adopt draft member

def adoptEntry (record : Record) (draft : Draft) (entry : String × Json) : Except Cause Draft :=
  match Member.ofName? entry.1 with
  | some member => record.adoptOnce draft member
  | none => .ok draft

/-- What the members of a record come to when they are read. All but the attributes are there. -/
structure Parts where
  tenant : Tenant
  recordType : RecordType
  keyField : String
  id : RecordId
  attributes : Except Cause Json.Object

namespace Parts

def Writes (parts : Parts) : Member → List UInt8 → Prop
  | .tenant, text => Spells (.string parts.tenant.text) text
  | .recordType, text => Spells (.string parts.recordType.text) text
  | .keyField, text => Spells (.string parts.keyField) text
  | .id, text => Spells (.string parts.id.text) text
  | .attributes, text => ∀ {space rest : List UInt8}, Space space →
      Agrees (Json.readObject attributeBudget (space ++ (text ++ rest))) parts.attributes rest

def adopt (parts : Parts) (draft : Draft) : Member → Except Cause Draft
  | .tenant => .ok { draft with tenant? := some parts.tenant }
  | .recordType => .ok { draft with recordType? := some parts.recordType }
  | .keyField => .ok { draft with keyField? := some parts.keyField }
  | .id => .ok { draft with id? := some parts.id }
  | .attributes => parts.attributes.map fun object => { draft with attributes? := some object }

def adoptOnce (parts : Parts) (draft : Draft) (member : Member) : Except Cause Draft :=
  if draft.has member then .error (.repeatedMember member.name) else parts.adopt draft member

theorem agrees_readMember (parts : Parts) (draft : Draft) (member : Member)
    {before after text : List UInt8} (spaceBefore : Space before) (spaceAfter : Space after)
    (h : parts.Writes member text) (rest : List UInt8) :
    Agrees (readMember member.name draft (before ++ 0x3A :: (after ++ (text ++ rest))))
      (parts.adoptOnce draft member) rest := by
  simp only [readMember, Member.ofName?_name, adoptOnce]
  cases repeated : draft.has member with
  | true =>
    simp only [if_true]
    refine ⟨_, rfl, ?_⟩
    simp only [refusalInObject]
    split
    · rfl
    · split
      · rfl
      · rfl
  | false =>
    simp only [Bool.false_eq_true, if_false]
    cases member with
    | tenant =>
      have read := takes_readTag parts.tenant refusalInObject h spaceAfter rest
      exact (Json.agrees_afterColon spaceBefore read.agrees).map _
    | recordType =>
      have read := takes_readTag parts.recordType refusalInObject h spaceAfter rest
      exact (Json.agrees_afterColon spaceBefore read.agrees).map _
    | keyField =>
      have read := Json.takes_readString h spaceAfter rest
      exact (Json.agrees_afterColon spaceBefore read.agrees).map _
    | id =>
      have read := takes_readTag parts.id refusalInObject h spaceAfter rest
      exact (Json.agrees_afterColon spaceBefore read.agrees).map _
    | attributes =>
      exact (Json.agrees_afterColon spaceBefore (h spaceAfter)).map _

end Parts

def parts (record : Record) : Parts where
  tenant := record.tenant
  recordType := record.recordType
  keyField := record.keyField
  id := record.id
  attributes := if record.Shallow then .ok record.attributes else .error .tooDeep

theorem parts_writes {record : Record} {member : Member} {text : List UInt8}
    (h : Spells (record.value member) text) : record.parts.Writes member text := by
  cases member with
  | tenant => exact h
  | recordType => exact h
  | keyField => exact h
  | id => exact h
  | attributes => exact fun spaces => Json.agrees_readObject h spaces

theorem adoptOnce_parts (record : Record) (draft : Draft) (member : Member) :
    record.parts.adoptOnce draft member = record.adoptOnce draft member := by
  cases member with
  | attributes =>
    rw [Parts.adoptOnce, adoptOnce, Parts.adopt, adopt, parts]
    by_cases fits : record.Shallow
    · simp only [if_pos fits, Except.map]
    · simp only [if_neg fits, Except.map]
  | _ => rfl

theorem agrees_readMember (record : Record) (draft : Draft) (member : Member)
    {before after text rest : List UInt8} (spaceBefore : Space before) (spaceAfter : Space after)
    (h : Spells (record.value member) text) :
    Agrees (readMember member.name draft (before ++ 0x3A :: (after ++ (text ++ rest))))
      (record.adoptOnce draft member) rest := by
  rw [← adoptOnce_parts]
  exact record.parts.agrees_readMember draft member spaceBefore spaceAfter (parts_writes h) rest

def entries (record : Record) : List (String × Json) :=
  Member.all.map fun member => (member.name, record.value member)

theorem toJson_eq_entries (record : Record) : record.toJson = .object record.entries := rfl

theorem foldlM_adoptEntry (record : Record) :
    record.entries.foldlM record.adoptEntry Draft.empty =
      if record.Shallow then
        .ok ⟨some record.tenant, some record.recordType, some record.keyField, some record.id,
          some record.attributes⟩
      else
        .error .tooDeep := by
  change record.adopt ⟨some record.tenant, some record.recordType, some record.keyField,
    some record.id, none⟩ .attributes >>= pure = _
  rw [adopt]
  by_cases fits : record.Shallow
  · rw [if_pos fits]
    rfl
  · rw [if_neg fits]
    rfl

theorem agrees_readMembers {record : Record} {bytes : List UInt8}
    (h : SpellsMembers true record.entries bytes) (rest : List UInt8) :
    Agrees (readMembers (bytes ++ rest))
      (if record.Shallow then .ok record else .error .tooDeep) rest := by
  have read : Agrees (Json.readMembers readMember true Draft.empty (bytes ++ rest) (Nat.le_refl _))
      (record.entries.foldlM record.adoptEntry Draft.empty) rest := by
    apply Json.agrees_readMembers _ h
    intro entry among draft before after text rest spaceBefore spaceAfter spelled _
    obtain ⟨member, -, rfl⟩ := List.mem_map.mp among
    rw [adoptEntry, Member.ofName?_name]
    exact agrees_readMember record draft member spaceBefore spaceAfter spelled
  rw [foldlM_adoptEntry] at read
  simp only [readMembers]
  by_cases fits : record.Shallow
  · rw [if_pos fits] at read ⊢
    obtain ⟨shorter, taken⟩ := read
    simp only [taken]
    exact ⟨shorter, rfl⟩
  · rw [if_neg fits] at read ⊢
    obtain ⟨stop, failed, same⟩ := read
    simp only [failed]
    exact ⟨stop, rfl, same⟩

theorem agrees_read {record : Record} {text space : List UInt8} (h : Spells record.toJson text)
    (spaces : Space space) (rest : List UInt8) :
    Agrees (read (space ++ (text ++ rest)))
      (if record.Shallow then .ok record else .error .tooDeep) rest := by
  rw [toJson_eq_entries] at h
  cases h with
  | @object _ bytes spelled =>
    obtain ⟨le, found⟩ := Json.afterSpace_append spaces (b := 0x7B) (by decide) (bytes ++ rest)
    simp only [List.cons_append, read, found, if_true]
    exact (agrees_readMembers spelled rest).weaken (Nat.le_of_lt le)

/-! ### Whole texts -/

section Whole

variable {record : Record} {space text after : List UInt8}

theorem exists_takes_of_parse (h : parse text = .ok record) :
    ∃ after, Space after ∧ Takes (read text) record after := by
  rw [parse] at h
  split at h
  · rename_i read
    cases h
    exact Json.Reader.exists_takes_of_readAll read
  · cases h

/-- A text that spells a record and nothing else is read as the record. -/
theorem parse_of_spells (spaces : Space space) (h : Spells record.toJson text)
    (blank : Space after) (shallow : record.Shallow) :
    parse (space ++ (text ++ after)) = .ok record := by
  have outcome := agrees_read h spaces after
  rw [if_pos shallow] at outcome
  simp only [parse, Json.Reader.readAll_of_takes outcome blank]

theorem parse_of_spells_of_not_shallow (spaces : Space space) (h : Spells record.toJson text)
    (deep : ¬record.Shallow) (after : List UInt8) :
    ∃ position, parse (space ++ (text ++ after)) =
      .error (.document (.malformed ⟨.tooDeep, position⟩)) := by
  have outcome := agrees_read h spaces after
  rw [if_neg deep] at outcome
  obtain ⟨stop, failed, same⟩ := outcome
  simp only [parse, Json.Reader.readAll, failed, Json.Stop.locate, same]
  exact ⟨_, rfl⟩

end Whole

end Record

end NaturalKey

/-! ### What has been written

On one line or over several. Everything comes back as it was but doubles, which come back as what
their texts are read as.
-/

namespace NaturalKey.Record

open Json (Spells)

def Integral (record : Record) : Prop :=
  record.attributes.toJson.Integral

/-- The record with its doubles as they are read from their texts. -/
def reread (record : Record) : Record :=
  { record with attributes := record.attributes.mapNumbers Json.Number.reread }

theorem reread_of_integral {record : Record} (h : record.Integral) : record.reread = record := by
  have same : record.attributes.mapNumbers Json.Number.reread = record.attributes := by
    have json := Json.mapNumbers_of_integral (f := Json.Number.reread) (fun _ _ => rfl) h
    apply Json.Object.ext_members
    exact Json.object.inj json
  rw [reread, same]

theorem shallow_reread {record : Record} : record.reread.Shallow ↔ record.Shallow := by
  have depth := Json.depth_mapNumbers Json.Number.reread record.attributes.toJson
  rw [Shallow, reread, Json.Object.toJson_mapNumbers, depth, Shallow]

theorem spells_text (record : Record) : Spells record.reread.toJson (Utf8.encode record.text) :=
  Json.spells_compact Json.spellsNumber_text record.toJson

theorem parse_text {record : Record} (h : record.Shallow) :
    parse (Utf8.encode record.text) = .ok record.reread := by
  have read := parse_of_spells Json.space_nil record.spells_text Json.space_nil
    (shallow_reread.mpr h)
  simpa using read

/-- A record that is nested too deep is written all the same, but cannot be read back. -/
theorem parse_text_of_not_shallow {record : Record} (h : ¬record.Shallow) :
    ∃ position, parse (Utf8.encode record.text) =
      .error (.document (.malformed ⟨.tooDeep, position⟩)) := by
  have read := parse_of_spells_of_not_shallow Json.space_nil record.spells_text
    (mt shallow_reread.mp h) []
  simpa using read

theorem parse_text_of_integral {record : Record} (shallow : record.Shallow)
    (integral : record.Integral) : parse (Utf8.encode record.text) = .ok record := by
  rw [parse_text shallow, reread_of_integral integral]

/-! ### Over several lines -/

theorem laid_prettyText (record : Record) :
    Json.Laid 0 record.reread.toJson (Utf8.encode record.prettyText) :=
  Json.laid_pretty Json.spellsNumber_text record.toJson 0

theorem spells_prettyText (record : Record) :
    Spells record.reread.toJson (Utf8.encode record.prettyText) :=
  record.laid_prettyText.spells

theorem parse_prettyText {record : Record} (h : record.Shallow) :
    parse (Utf8.encode (record.prettyText ++ "\n")) = .ok record.reread := by
  have read := parse_of_spells Json.space_nil record.spells_prettyText Json.space_lineBreak
    (shallow_reread.mpr h)
  rwa [List.nil_append, ← Utf8.encode_append] at read

end NaturalKey.Record
