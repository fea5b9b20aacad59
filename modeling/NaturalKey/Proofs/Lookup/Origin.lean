import NaturalKey.Proofs.Lookup.Readable
import NaturalKey.Proofs.Lookup.Registered
import NaturalKey.Proofs.Lookup.Stores
import NaturalKey.Proofs.Record.Blank

/-!
Where records come from. Whatever a store returns has the tags of a record that was added to it, and
whatever is added has been read; no tag is blank on any of these ways.
-/

set_option autoImplicit false

namespace NaturalKey

/-- The text has a character that is no white space. -/
def Text.Visible (text : String) : Prop :=
  ∃ c ∈ text.toList, Text.isSpace c = false

theorem Text.visible_iff {text : String} : Text.Visible text ↔ Text.isBlank text = false := by
  rw [Visible, isBlank, ← Bool.not_eq_true, List.all_eq_true]
  simp only [not_forall, Bool.not_eq_true, exists_prop]

theorem Tag.visible {kind : Tag.Kind} (tag : Tag kind) : Text.Visible tag.text :=
  Text.visible_iff.mpr tag.nonBlank

namespace Record

structure Visible (record : Record) : Prop where
  tenant : Text.Visible record.tenant.text
  recordType : Text.Visible record.recordType.text
  id : Text.Visible record.id.text

theorem visible (record : Record) : record.Visible :=
  ⟨record.tenant.visible, record.recordType.visible, record.id.visible⟩

/-- Neither a tag of the record nor its key field is empty or has white space at its ends. -/
structure Bare (record : Record) : Prop where
  tenant : record.tenant.text ≠ "" ∧ Text.trim record.tenant.text = record.tenant.text
  recordType : record.recordType.text ≠ "" ∧
    Text.trim record.recordType.text = record.recordType.text
  keyField : record.keyField ≠ "" ∧ Text.trim record.keyField = record.keyField
  id : record.id.text ≠ "" ∧ Text.trim record.id.text = record.id.text

def SameTags (r s : Record) : Prop :=
  r.SameKey s ∧ r.keyField = s.keyField

theorem SameTags.refl (record : Record) : record.SameTags record :=
  ⟨⟨rfl, rfl, rfl⟩, rfl⟩

theorem sameTags_reread (record : Record) : record.SameTags record.reread :=
  ⟨⟨rfl, rfl, rfl⟩, rfl⟩

end Record

theorem Seed.Decodes.bare {row : Seed.Row} {record : Record} (h : Seed.Decodes row (.ok record))
    (bare : row.Bare) : record.Bare := by
  have tagged {kind : Tag.Kind} (tag : Tag kind) : tag.text ≠ "" := fun empty => by
    have nonBlank := tag.nonBlank
    rw [empty] at nonBlank
    cases nonBlank
  cases h with
  | record key attributes recordType id keyField tenant =>
    refine ⟨⟨tagged _, ?_⟩, ⟨tagged _, ?_⟩, ⟨?_, ?_⟩, ⟨tagged _, ?_⟩⟩
    · rw [tenant]
      split
      · decide
      · exact bare.tenant
    · rw [recordType]
      exact bare.recordType
    · rwa [keyField]
    · rw [keyField]
      exact bare.key
    · rw [id]
      exact bare.id

/-- What is read of a row of a seed file has no white space at its ends. -/
theorem Seed.bare_of_mem {text : List UInt8} {record : Record}
    (h : .ok record ∈ Seed.records text) :
    record.Bare := by
  obtain ⟨header, csv, row, readsAs, decodes⟩ := Seed.exists_readsAs_of_mem h
  exact decodes.bare readsAs.bare

namespace Lookup

/-! ### What a store returns -/

section Returned

variable {σ : Type} [Store σ] {store : σ} {record : Record}

/-- The record is what one of the questions comes to that a store can be asked, of itself or through
a lookup; or it is among what it comes to. -/
inductive Returned (store : σ) (record : Record) : Prop
  | all {tenant : Tenant} {recordType : RecordType} {table : List Record} :
      Store.all store tenant recordType = .ok table → record ∈ table → Returned store record
  | query {tenant : Tenant} {recordType : RecordType} {filter : Filter} {table : List Record} :
      Store.query store tenant recordType filter = .ok table → record ∈ table →
      Returned store record
  | findOne {registry : Registry} {tenant : Tenant} {recordType : RecordType} {filter : Filter} :
      (findOne ⟨store, registry, tenant⟩ recordType filter).result = .ok record →
      Returned store record
  | findById {registry : Registry} {tenant : Tenant} {typeText idText : String} :
      (findById ⟨store, registry, tenant⟩ typeText idText).result = .ok record →
      Returned store record

theorem query_of_findOne {lookup : Lookup σ} {recordType : RecordType} {filter : Filter}
    (found : (lookup.findOne recordType filter).result = .ok record) :
    Store.query lookup.store lookup.tenant recordType filter = .ok [record] := by
  cases asked : Store.query lookup.store lookup.tenant recordType filter with
  | error fault =>
    rw [findOne_of_query_error lookup asked] at found
    cases found
  | ok table =>
    rw [findOne_of_query lookup asked] at found
    rw [outcome_ok_iff.mp (outcome_iff.mpr found)]

theorem exists_findOne_of_findById {lookup : Lookup σ} {typeText idText : String}
    (found : (lookup.findById typeText idText).result = .ok record) :
    ∃ recordType filter, (lookup.findOne recordType filter).result = .ok record := by
  cases id : Text.isBlank idText with
  | true =>
    rw [findById_of_blank_id lookup typeText id] at found
    cases found
  | false =>
    by_cases blank : Text.trim typeText = ""
    · rw [findById_of_blank_type lookup id blank] at found
      cases found
    · obtain ⟨recordType, same⟩ : ∃ recordType : RecordType, _ := Tag.exists_text_eq_trim blank
      cases known : lookup.registry.field? recordType with
      | none =>
        rw [findById_of_unknown lookup id same known] at found
        cases found
      | some field =>
        rw [findById_of_field lookup id same known] at found
        exact ⟨recordType, _, found⟩

/-- Whatever is returned is in a table, where a question about a table comes to a part of it. -/
theorem Returned.exists_all (view : ∀ tenant recordType, Store.TableView σ tenant recordType)
    (h : Returned store record) :
    ∃ tenant recordType table, Store.all store tenant recordType = .ok table ∧ record ∈ table := by
  have asked {tenant : Tenant} {recordType : RecordType} {filter : Filter} {part : List Record}
      (found : Store.query store tenant recordType filter = .ok part) (among : record ∈ part) :
      ∃ tenant recordType table, Store.all store tenant recordType = .ok table ∧
        record ∈ table := by
    rw [(view tenant recordType).query_eq, map_eq_ok] at found
    obtain ⟨table, read, rfl⟩ := found
    exact ⟨tenant, recordType, table, ((view tenant recordType).all_eq store).trans read,
      (List.mem_filter.mp among).1⟩
  cases h with
  | all read among => exact ⟨_, _, _, read, among⟩
  | query found among => exact asked found among
  | findOne found => exact asked (query_of_findOne found) List.mem_cons_self
  | findById found =>
    obtain ⟨recordType, filter, found⟩ := exists_findOne_of_findById found
    exact asked (query_of_findOne found) List.mem_cons_self

end Returned

section Origin

variable {records : List Record} {record : Record}

theorem exists_origin_memory
    (h : Returned (Store.attemptAll MemoryStore.empty records) record) :
    ∃ origin ∈ records, origin.SameTags record := by
  obtain ⟨tenant, recordType, table, read, among⟩ := h.exists_all MemoryStore.tableView
  obtain rfl := Except.ok.inj read
  rw [MemoryStore.all_attemptAll_empty] at among
  exact ⟨record, (List.mem_filter.mp among).1, .refl record⟩

/-- A table that can be read holds the last records of their keys, with their tags. -/
theorem exists_origin_keyed (h : Returned (Store.attemptAll KeyedStore.empty records) record) :
    ∃ origin ∈ records, origin.SameTags record := by
  obtain ⟨tenant, recordType, table, read, among⟩ := h.exists_all KeyedStore.tableView
  have shallow : ∀ row ∈ KeyedStore.rows records tenant recordType, row.Shallow := by
    intro row member
    by_contra deep
    obtain ⟨position, failed⟩ := KeyedStore.all_of_not_shallow member deep
    cases read.symm.trans failed
  obtain rfl := Except.ok.inj (read.symm.trans (KeyedStore.all_of_shallow shallow))
  obtain ⟨origin, row, rfl⟩ := List.mem_map.mp among
  exact ⟨origin, (KeyedStore.mem_rows_iff.mp row).2.2.mem, origin.sameTags_reread⟩

end Origin

/-- Tags are never blank. A text is read as a record only if none of its tags is; it is not if one
of the tags it spells is, in an object or at its place in an array. The rows of seed files have no
white space around their tags either. What a store returns after a run has tags of the run. -/
theorem tags_visible :
    (∀ text record, Record.parse text = .ok record → record.Visible) ∧
    (∀ {members : List (List UInt8 × List UInt8)} {before text : List UInt8}
        {member : Record.Member} {letters value : List UInt8}, Json.ObjectWith members text →
      Json.Space before →
      (letters, value) ∈ members → Json.SpellsName member.name letters →
      member ∈ Record.Member.tags → Record.SpellsBlank value →
      ∀ rest, ∃ fault, Record.parse (before ++ (text ++ rest)) = .error fault) ∧
    (∀ {items : List (List UInt8)} {before bytes : List UInt8} {member : Record.Member}
        {item : List UInt8}, Json.ItemsOf (· = ·) true items bytes →
      (∀ item ∈ items, Json.ValueText item) → Json.Space before →
      (member, item) ∈ Record.Member.all.zip items → member ∈ Record.Member.tags →
      Record.SpellsBlank item →
      ∀ rest, ∃ fault, Record.parse (before ++ 0x5B :: (bytes ++ rest)) = .error fault) ∧
    (∀ text record, .ok record ∈ Seed.records text → record.Visible ∧ record.Bare) ∧
    ∀ (records : List Record) (record : Record),
      Returned (Store.attemptAll MemoryStore.empty records) record ∨
        Returned (Store.attemptAll KeyedStore.empty records) record →
      record.Visible ∧ ∃ origin ∈ records, origin.SameTags record := by
  refine ⟨fun _ record _ => record.visible, ?_, ?_, ?_, ?_⟩
  · intro members before text member letters value object spaces among named isTag blank rest
    exact Record.exists_fault_of_blankMember object spaces among named isTag blank rest
  · intro items before bytes member item written values spaces among isTag blank rest
    exact Record.exists_fault_of_blankItem written values spaces among isTag blank rest
  · intro text record among
    exact ⟨record.visible, Seed.bare_of_mem among⟩
  · rintro records record (returned | returned)
    · exact ⟨record.visible, exists_origin_memory returned⟩
    · exact ⟨record.visible, exists_origin_keyed returned⟩

def wideSpace : List UInt8 :=
  Utf8.encode "\x7b\x22id\x22:\x22\\u2003\x22\x7d"

def emptyType : List UInt8 :=
  Utf8.encode "[\x22t\x22,\x22\x22]"

theorem objectWith_wideSpace : ∃ letters value, Json.ObjectWith [(letters, value)] wideSpace ∧
    Json.SpellsName Record.Member.id.name letters ∧ Record.SpellsBlank value := by
  have letters : Json.LettersText ([0x69] ++ ([0x64] ++ [])) :=
    .cons (.plain (by decide) (by decide) (by decide))
      (.cons (.plain (by decide) (by decide) (by decide)) .nil)
  have wide : Json.ValueText (0x22 :: ([0x5C, 0x75, 0x32, 0x30, 0x30, 0x33] ++ [] ++ [0x22])) :=
    .string (.cons (.number rfl rfl rfl rfl) .nil)
  have object := @Json.ObjectWith.braces [(_, _)] _ (List.forall_mem_singleton.mpr letters)
    (List.forall_mem_singleton.mpr wide)
    (.more (.first Json.space_nil) rfl Json.space_nil Json.space_nil rfl (.close Json.space_nil))
  refine ⟨_, _, Eq.subst (motive := Json.ObjectWith _) (by decide +kernel) object, ?_,
    "\u2003", ?_, ?_⟩
  · exact Json.spellsText_escape ['i', 'd']
  · decide
  · have spelled : Json.SpellsChar '\u2003' [0x5C, 0x75, 0x32, 0x30, 0x30, 0x33] :=
      .escape (@Json.SpellsEscape.number _ _ _ _ 0x2003 rfl rfl rfl)
    exact .string (.cons spelled .nil)

theorem itemsOf_emptyType : ∃ tenant bytes, emptyType = 0x5B :: bytes ∧
    Json.ItemsOf (· = ·) true [tenant, [0x22, 0x22]] bytes ∧
    ∀ item ∈ [tenant, [0x22, 0x22]], Json.ValueText item := by
  have tenant : Json.ValueText (0x22 :: ([0x74] ++ [] ++ [0x22])) :=
    .string (.cons (.plain (by decide) (by decide) (by decide)) .nil)
  have recordType : Json.ValueText (0x22 :: ([] ++ [0x22])) := .string .nil
  refine ⟨_, _, ?_, .more (.first Json.space_nil) rfl
    (.more (.comma Json.space_nil Json.space_nil) rfl (.close Json.space_nil)),
    List.forall_mem_cons.mpr ⟨tenant, List.forall_mem_singleton.mpr recordType⟩⟩
  decide +kernel

/-- A loan with white space around its type, a user who is in a store, and two texts of which
nothing is read. -/
theorem tags_visible_loan :
    (∃ fault, Record.parse wideSpace = .error fault) ∧
    (∃ fault, Record.parse emptyType = .error fault) ∧
    (∃ record : Record, .ok record ∈ Seed.records (loanFile "\tLoan ") ∧ record.Bare) ∧
    ∃ table, Store.all (Store.attemptAll KeyedStore.empty [Record.user ⟨"u-1", by decide⟩])
        Tenant.default ⟨"User", isBlank_user⟩ = .ok table ∧ table ≠ [] ∧
      ∀ record ∈ table, record.Visible := by
  obtain ⟨-, inObject, inArray, inFile, inStore⟩ := tags_visible
  refine ⟨?_, ?_, ?_, ?_⟩
  · obtain ⟨letters, value, object, named, blank⟩ := objectWith_wideSpace
    have isTag : Record.Member.id ∈ Record.Member.tags := by decide
    exact inObject object Json.space_nil List.mem_cons_self named isTag blank []
  · obtain ⟨tenant, bytes, same, items, values⟩ := itemsOf_emptyType
    have isTag : Record.Member.recordType ∈ Record.Member.tags := by decide
    have empty : Record.SpellsBlank (0x22 :: ([] ++ [0x22])) := ⟨"", by decide, .string .nil⟩
    have refused := inArray items values Json.space_nil
      (List.mem_cons_of_mem _ List.mem_cons_self) isTag empty []
    rwa [List.append_nil, List.nil_append, ← same] at refused
  · obtain ⟨record, read, -⟩ :=
      (holdsRow_loanFile "\tLoan ").exists_record (by decide) (by decide) (by decide)
    have among : .ok record ∈ Seed.records (loanFile "\tLoan ") := by
      rw [read]
      exact List.mem_cons_self
    exact ⟨record, among, (inFile _ record among).2⟩
  · let user := Record.user ⟨"u-1", by decide⟩
    have rows : ∀ row ∈ KeyedStore.rows [user] Tenant.default ⟨"User", isBlank_user⟩, row = user :=
      fun row member => List.mem_singleton.mp (KeyedStore.mem_rows_iff.mp member).2.2.mem
    have read := KeyedStore.all_of_integral (fun row member =>
      rows row member ▸ Record.shallow_user _)
      fun row member => rows row member ▸ Record.integral_user _
    have stored : user ∈ KeyedStore.rows [user] Tenant.default ⟨"User", isBlank_user⟩ :=
      KeyedStore.mem_rows_iff.mpr
        ⟨Record.storable_user (by decide), ⟨rfl, rfl⟩, [], [], rfl, nofun⟩
    exact ⟨_, read, List.ne_nil_of_mem stored,
      fun record among => (inStore _ record (.inr (.all read among))).1⟩

end Lookup

end NaturalKey
