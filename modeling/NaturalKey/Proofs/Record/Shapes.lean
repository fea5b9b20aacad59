import Mathlib.Data.List.Nodup
import Mathlib.Data.List.Pairwise
import NaturalKey.Proofs.Json.Skipping
import NaturalKey.Proofs.Record.Members

/-!
The shapes a record may have in a document: an object with its members in any order and others
between them, or an array of their values in the order of the fields. All of them come to the same
record.
-/

set_option autoImplicit false

namespace NaturalKey.Record

open Json (Agrees Cause EndsNumeral ItemsOf Lead MembersOf Reader Space Spells SpellsName Starts
  Takes ValueText itemsOf_map_iff)

/-- What stands for a member in an object; or a value of some other name, which may be any text of
the grammar. -/
inductive EntryOf (Writes : Member → List UInt8 → Prop) : String × List UInt8 → Prop
  | member {member : Member} {text : List UInt8} : Writes member text →
      EntryOf Writes (member.name, text)
  | other {name : String} {text : List UInt8} : Member.ofName? name = none → ValueText text →
      EntryOf Writes (name, text)

/-- The documents that have each of these members once. -/
inductive ShapeOf (Writes : Member → List UInt8 → Prop) (members : List Member) : List UInt8 → Prop
  | object {entries : List (String × List UInt8)} {before bytes after : List UInt8} :
      (entries.filterMap fun entry => Member.ofName? entry.1).Perm members →
      (∀ entry ∈ entries, EntryOf Writes entry) → Space before →
      MembersOf SpellsName (· = ·) true entries bytes → Space after →
      ShapeOf Writes members (before ++ 0x7B :: (bytes ++ after))
  | array {before bytes after : List UInt8} : Space before → ItemsOf Writes true members bytes →
      Space after → ShapeOf Writes members (before ++ 0x5B :: (bytes ++ after))

section Imp

variable {Writes Others : Member → List UInt8 → Prop} {members : List Member}
  {document : List UInt8}

theorem EntryOf.imp {entry : String × List UInt8} (h : EntryOf Writes entry)
    (weaker : ∀ member, Member.ofName? entry.1 = some member →
      ∀ text, Writes member text → Others member text) : EntryOf Others entry := by
  cases h with
  | member written => exact .member (weaker _ (Member.ofName?_name _) _ written)
  | other unknown text => exact .other unknown text

theorem ShapeOf.imp (h : ShapeOf Writes members document)
    (weaker : ∀ member ∈ members, ∀ text, Writes member text → Others member text) :
    ShapeOf Others members document := by
  cases h with
  | object perm each before written after =>
    refine .object perm (fun entry listed => (each entry listed).imp fun member known => ?_) before
      written after
    exact weaker member (perm.mem_iff.mp (List.mem_filterMap.mpr ⟨entry, listed, known⟩))
  | array before written after => exact .array before (written.imp weaker) after

end Imp

/-- The texts of a member. The members of the attributes may stand in any order and be there more
than once, as the last of the same name counts; no part of them is nested too deep to be read. -/
def Writes (record : Record) : Member → List UInt8 → Prop
  | .tenant, text => Spells (.string record.tenant.text) text
  | .recordType, text => Spells (.string record.recordType.text) text
  | .keyField, text => Spells (.string record.keyField) text
  | .id, text => Spells (.string record.id.text) text
  | .attributes, text => ∃ members, Spells (.object members) text ∧
      (Json.object members).depth ≤ attributeBudget + 1 ∧
      Json.Object.empty.putAll members = record.attributes

variable {record : Record}

theorem Writes.starts {member : Member} {text : List UInt8} (h : record.Writes member text) :
    Starts text := by
  cases member with
  | attributes =>
    obtain ⟨members, spelled, -⟩ := h
    exact spelled.starts
  | _ => exact Spells.starts h

theorem Writes.takes_readObject {text : List UInt8} (h : record.Writes .attributes text)
    {space : List UInt8} (spaces : Space space) (rest : List UInt8) :
    Takes (Json.readObject attributeBudget (space ++ (text ++ rest))) record.attributes rest := by
  obtain ⟨members, spelled, levels, same⟩ := h
  have read : Agrees (Json.readObject attributeBudget (space ++ (text ++ rest))) _ rest :=
    Json.agrees_readObject_members_of_spells spelled spaces
  rwa [if_pos levels, same] at read

/-! ### Objects -/

def whole (record : Record) : Parts where
  tenant := record.tenant
  recordType := record.recordType
  keyField := record.keyField
  id := record.id
  attributes := .ok record.attributes

theorem Writes.whole {member : Member} {text : List UInt8} (h : record.Writes member text) :
    record.whole.Writes member text := by
  cases member with
  | attributes => exact fun {_ rest} spaces => h.takes_readObject spaces rest
  | _ => exact h

namespace Parts

variable {parts : Parts}

def adoptNamed (parts : Parts) (draft : Draft) (name : String) : Except Cause Draft :=
  match Member.ofName? name with
  | some member => parts.adoptOnce draft member
  | none => .ok draft

theorem agrees_readMember_entry {entry : String × List UInt8} (h : EntryOf parts.Writes entry)
    (draft : Draft) {before after rest : List UInt8} (spaceBefore : Space before)
    (spaceAfter : Space after) (ends : EndsNumeral rest) :
    Agrees (readMember entry.1 draft (before ++ 0x3A :: (after ++ (entry.2 ++ rest))))
      (parts.adoptNamed draft entry.1) rest := by
  cases h with
  | @member member text written =>
    simp only [adoptNamed, Member.ofName?_name]
    exact parts.agrees_readMember draft member spaceBefore spaceAfter written rest
  | other unknown text =>
    have skipped := text.skips spaceAfter ends
    simp only [adoptNamed, readMember, unknown]
    exact (Json.agrees_afterColon spaceBefore skipped.agrees).map fun _ => draft

theorem foldlM_adoptNamed (parts : Parts) (entries : List (String × List UInt8)) (draft : Draft) :
    entries.foldlM (fun draft entry => parts.adoptNamed draft entry.1) draft =
      (entries.filterMap fun entry => Member.ofName? entry.1).foldlM parts.adoptOnce draft := by
  rw [List.foldlM_filterMap]
  congr
  funext draft entry
  rw [adoptNamed]
  cases Member.ofName? entry.1 with
  | none => rfl
  | some member => rfl

theorem agrees_read_entries {entries : List (String × List UInt8)} {order : List Member}
    (known : (entries.filterMap fun entry => Member.ofName? entry.1) = order) (once : order.Nodup)
    (required : ∀ member ∈ Member.required, member ∈ order)
    (each : ∀ entry ∈ entries, EntryOf parts.Writes entry) {before bytes : List UInt8}
    (spaceBefore : Space before) (written : MembersOf SpellsName (· = ·) true entries bytes)
    (after : List UInt8) :
    Agrees (read (before ++ 0x7B :: (bytes ++ after))) (parts.recordOf order) after := by
  apply parts.agrees_read_of_foldlM once required spaceBefore
  have outcome : Agrees
      (Json.readMembers readMember true Draft.empty (bytes ++ after) (Json.length_le _))
      (entries.foldlM (Json.addMember .ok fun draft name _ => parts.adoptNamed draft name)
        Draft.empty) after := by
    apply Json.agrees_readMembersOf _ _ written
    · exact fun _ _ _ named rest => Json.agrees_stringRest named rest
    · rintro entry among name draft before after text rest ⟨⟩ spaceBefore spaceAfter rfl ends
      exact agrees_readMember_entry (each entry among) draft spaceBefore spaceAfter ends
  rw [← known, ← foldlM_adoptNamed]
  exact outcome

end Parts

/-! ### Arrays -/

theorem exists_agrees_readItem {α ι : Type} {reader : Reader α} {Spelled : ι → List UInt8 → Prop}
    (index : Nat) {item : ι} {items : List ι} {bytes : List UInt8}
    (h : ItemsOf Spelled (index == 0) (item :: items) bytes)
    (starts : ∀ {text : List UInt8}, Spelled item text → Starts text) {expected : Except Cause α}
    (each : ∀ {text rest : List UInt8}, Spelled item text → EndsNumeral rest →
      Agrees (reader (text ++ rest)) expected rest) :
    ∃ others, ItemsOf Spelled false items others ∧
      ∀ rest, Agrees (readItem index reader (bytes ++ rest)) expected (others ++ rest) := by
  cases h with
  | @more _ _ _ lead text others leads spelled spelledOthers =>
    refine ⟨others, spelledOthers, fun rest => ?_⟩
    have read := each spelled (spelledOthers.endsNumeral rest)
    obtain ⟨b, more, rfl, token, notEnd⟩ := starts spelled
    obtain ⟨le, found⟩ := Json.nextItem_more leads token notEnd (more ++ (others ++ rest))
    rw [List.append_assoc, List.append_assoc, List.cons_append]
    simp only [readItem, found]
    exact read.weaken le

theorem exists_takes_readItem {α : Type} {reader : Reader α} {value : α} (index : Nat)
    {member : Member} {members : List Member} {bytes : List UInt8}
    (h : ItemsOf record.Writes (index == 0) (member :: members) bytes)
    (each : ∀ {text : List UInt8}, record.Writes member text → ∀ rest,
      Takes (reader (text ++ rest)) value rest) :
    ∃ others, ItemsOf record.Writes false members others ∧
      ∀ rest, Takes (readItem index reader (bytes ++ rest)) value (others ++ rest) :=
  exists_agrees_readItem index h Writes.starts fun written _ => (each written _).agrees

theorem takes_closeArray {space : List UInt8} (spaces : Space space) (rest : List UInt8) :
    Takes (closeArray (space ++ 0x5D :: rest)) () rest := by
  obtain ⟨le, found⟩ := Json.afterSpace_append spaces (b := 0x5D) (by decide) rest
  simp only [closeArray, found, if_true]
  exact ⟨_, rfl⟩

theorem takes_readLastItem_attributes {bytes : List UInt8}
    (h : ItemsOf record.Writes false [.attributes] bytes) (rest : List UInt8) :
    Takes (readLastItem (bytes ++ rest)) record.attributes rest := by
  cases h with
  | @more _ _ _ lead text _ leads written closed =>
    cases closed with
    | @close _ space spaces =>
      obtain ⟨shorter, read⟩ := written.takes_readObject Json.space_nil (space ++ 0x5D :: rest)
      obtain ⟨shorter', taken⟩ := takes_closeArray spaces rest
      obtain ⟨b, more, rfl, token, notEnd⟩ := written.starts
      obtain ⟨le, found⟩ := Json.nextItem_more leads token notEnd (more ++ (space ++ 0x5D :: rest))
      have order : lead ++ (b :: more ++ (space ++ [0x5D])) ++ rest =
          lead ++ b :: (more ++ (space ++ 0x5D :: rest)) := by simp
      rw [order]
      simp only [List.nil_append, List.cons_append] at read
      simp only [readLastItem, found, read, taken, bind, Except.bind]
      exact ⟨_, rfl⟩

theorem takes_readLastItem_empty {bytes : List UInt8} (h : ItemsOf record.Writes false [] bytes)
    (rest : List UInt8) : Takes (readLastItem (bytes ++ rest)) .empty rest := by
  cases h with
  | close spaces =>
    obtain ⟨shorter, closed⟩ := Json.nextItem_close spaces false rest
    rw [List.append_assoc, List.singleton_append]
    simp only [readLastItem, closed]
    exact ⟨shorter, rfl⟩

theorem takes_readItems {members : List Member} {bytes : List UInt8}
    (complete : members = [.attributes] ∨ members = [] ∧ record.attributes = .empty)
    (h : ItemsOf record.Writes true (Member.required ++ members) bytes) (rest : List UInt8) :
    Takes (readItems (bytes ++ rest)) record rest := by
  obtain ⟨afterTenant, h, tenant⟩ := exists_takes_readItem 0 h fun written =>
    takes_readTag record.tenant refusalInArray written Json.space_nil
  obtain ⟨afterType, h, recordType⟩ := exists_takes_readItem 1 h fun written =>
    takes_readTag record.recordType refusalInArray written Json.space_nil
  obtain ⟨afterKey, h, keyField⟩ := exists_takes_readItem 2 h fun written =>
    Json.takes_readString written Json.space_nil
  obtain ⟨afterId, h, id⟩ := exists_takes_readItem 3 h fun written =>
    takes_readTag record.id refusalInArray written Json.space_nil
  have attributes : Takes (readLastItem (afterId ++ rest)) record.attributes rest := by
    rcases complete with rfl | ⟨rfl, none⟩
    · exact takes_readLastItem_attributes h rest
    · rw [none]
      exact takes_readLastItem_empty h rest
  obtain ⟨_, tenant⟩ := tenant rest
  obtain ⟨_, recordType⟩ := recordType rest
  obtain ⟨_, keyField⟩ := keyField rest
  obtain ⟨_, id⟩ := id rest
  obtain ⟨_, attributes⟩ := attributes
  simp only [readItems, tenant, recordType, keyField, id, attributes, bind, Except.bind]
  exact ⟨_, rfl⟩

/-! ### Texts of members -/

section Texts

variable {Writes : Member → List UInt8 → Prop} {members : List Member} {document : List UInt8}

theorem EntryOf.writes {entry : String × List UInt8} (h : EntryOf Writes entry) {member : Member}
    (known : Member.ofName? entry.1 = some member) : Writes member entry.2 := by
  cases h with
  | @member other _ written =>
    rw [Member.ofName?_name] at known
    cases known
    exact written
  | other unknown _ =>
    rw [unknown] at known
    cases known

theorem eq_of_nodup_filterMap {α β : Type} {f : α → Option β} {items : List α}
    (once : (items.filterMap f).Nodup) {one other : α} (listed : one ∈ items)
    (listed' : other ∈ items)
    {result : β} (same : f one = some result) (same' : f other = some result) : one = other := by
  have pairs := List.pairwise_filterMap.mp once
  have symmetric : Std.Symm fun a b => ∀ x, f a = some x → ∀ y, f b = some y → x ≠ y :=
    ⟨fun _ _ differ x found y found' => (differ y found' x found).symm⟩
  by_contra differ
  exact pairs.forall listed listed' differ result same result same' rfl

theorem ShapeOf.exists_texts (h : ShapeOf Writes members document) (once : members.Nodup) :
    ∃ texts : Member → List UInt8, (∀ member ∈ members, Writes member (texts member)) ∧
      ShapeOf (fun member text => texts member = text) members document := by
  cases h with
  | @object entries before bytes after perm each spaceBefore written spaceAfter =>
    have there : ∀ member ∈ members, ∃ entry ∈ entries, Member.ofName? entry.1 = some member :=
      fun member among => List.mem_filterMap.mp (perm.mem_iff.mpr among)
    choose! entryOf among known using there
    refine ⟨fun member => (entryOf member).2,
      fun member listed => (each _ (among member listed)).writes (known member listed), ?_⟩
    refine .object perm (fun entry listed => ?_) spaceBefore written spaceAfter
    cases each entry listed with
    | other unknown text => exact .other unknown text
    | @member member text writes =>
      have known' := member.ofName?_name
      have inside := perm.mem_iff.mp (List.mem_filterMap.mpr ⟨_, listed, known'⟩)
      have same := eq_of_nodup_filterMap (perm.nodup_iff.mpr once) (among member inside) listed
        (known member inside) known'
      exact .member (congrArg Prod.snd same)
  | @array before bytes after spaceBefore written spaceAfter =>
    obtain ⟨pairs, rfl, each, written⟩ := written.exists_texts
    have there : ∀ member ∈ pairs.map Prod.fst, ∃ pair ∈ pairs, pair.1 = member :=
      fun member among => List.mem_map.mp among
    choose! pairOf among named using there
    refine ⟨fun member => (pairOf member).2, fun member listed => ?_, ?_⟩
    · have writes := each _ (among member listed)
      rwa [named member listed] at writes
    · refine .array spaceBefore (itemsOf_map_iff.mpr (written.imp ?_)) spaceAfter
      rintro pair listed _ rfl
      have inside : pair.1 ∈ pairs.map Prod.fst := List.mem_map_of_mem listed
      exact congrArg Prod.snd
        (List.inj_on_of_nodup_map once (among _ inside) listed (named _ inside))

end Texts

/-! ### Documents -/

/-- All members are there; or all but the attributes are, which are empty. -/
def Complete (record : Record) (members : List Member) : Prop :=
  members = Member.all ∨ members = Member.required ∧ record.attributes = .empty

theorem Member.nodup {members : List Member} (h : members = all ∨ members = required) :
    members.Nodup := by
  rcases h with rfl | rfl
  · decide
  · decide

theorem Complete.nodup {members : List Member} (h : record.Complete members) : members.Nodup :=
  Member.nodup (h.imp_right And.left)

theorem Complete.mem {members : List Member} (h : record.Complete members) {member : Member}
    (required : member ∈ Member.required) : member ∈ members := by
  rcases h with rfl | ⟨rfl, -⟩
  · cases member <;> decide
  · exact required

theorem Complete.exists_last {members : List Member} (h : record.Complete members) :
    ∃ last, members = Member.required ++ last ∧
      (last = [.attributes] ∨ last = [] ∧ record.attributes = .empty) := by
  rcases h with rfl | ⟨rfl, none⟩
  · exact ⟨[.attributes], rfl, .inl rfl⟩
  · exact ⟨[], (List.append_nil _).symm, .inr ⟨rfl, none⟩⟩

theorem Complete.recordOf {members order : List Member} (h : record.Complete members)
    (perm : order.Perm members) : record.whole.recordOf order = .ok record := by
  rcases h with rfl | ⟨rfl, none⟩
  · have there : .attributes ∈ order := perm.mem_iff.mpr (by decide)
    rw [Parts.recordOf, if_pos there]
    rfl
  · have missing : .attributes ∉ order := fun among => absurd (perm.mem_iff.mp among) (by decide)
    rw [Parts.recordOf, if_neg missing, ← none]
    rfl

/-- A document of any shape is read as the record that has its members. -/
theorem parse_shapeOf {members : List Member} (complete : record.Complete members)
    {document : List UInt8} (h : ShapeOf record.Writes members document) :
    parse document = .ok record := by
  have taken : ∃ after, Space after ∧ Takes (read document) record after := by
    cases h with
    | @object entries before bytes after perm each spaceBefore written spaceAfter =>
      have read := record.whole.agrees_read_entries rfl (perm.nodup_iff.mpr complete.nodup)
        (fun member required => perm.mem_iff.mpr (complete.mem required))
        (fun entry among => (each entry among).imp fun _ _ _ => Writes.whole)
        spaceBefore written after
      rw [complete.recordOf perm] at read
      exact ⟨after, spaceAfter, read⟩
    | @array before bytes after spaceBefore written spaceAfter =>
      obtain ⟨last, rfl, either⟩ := complete.exists_last
      obtain ⟨le, found⟩ :=
        Json.afterSpace_append spaceBefore (b := 0x5B) (by decide) (bytes ++ after)
      have noBrace : ¬(0x5B : UInt8) = 0x7B := by decide
      refine ⟨after, spaceAfter, ?_⟩
      simp only [read, found, if_neg noBrace, if_true]
      exact (takes_readItems either written after).weaken _
  obtain ⟨after, blank, taken⟩ := taken
  rw [parse, Json.Reader.readAll_of_takes taken blank]

end NaturalKey.Record
