import NaturalKey.Proofs.Json.Reading
import NaturalKey.Proofs.Json.Taken
import NaturalKey.Proofs.Json.Text
import NaturalKey.Proofs.Registry
import NaturalKey.Proofs.Registry.Binding

/-!
Registries as the layers are written: a schema as a JSON object of strings, in which a type may
stand several times, and bindings as texts. Of the entries of the schema for a type the last one
survives. If all survivors can be registered, each type has the field of its last binding, or else
of its survivor, or else the one that is known without being told. Otherwise the survivor with the
smallest type, as bytes, of those that cannot be registered is the one that is refused.
-/

set_option autoImplicit false

namespace NaturalKey

open Json (Agrees MembersOf Space Spells SpellsName Takes)

/-! ### Schemas as texts -/

namespace Json

def SpellsString (text : String) (bytes : List UInt8) : Prop :=
  Spells (.string text) bytes

def SpellsTexts : List (String × String) → List UInt8 → Prop :=
  MembersOf SpellsName SpellsString true

theorem takes_readStringMap {entries : List (String × String)} {bytes space : List UInt8}
    (h : SpellsTexts entries bytes) (spaces : Space space) (rest : List UInt8) :
    Takes (readStringMap (space ++ (0x7B :: bytes ++ rest))) (SortedMap.empty.putAll entries)
      rest := by
  obtain ⟨le, found⟩ := afterSpace_append spaces (b := 0x7B) (by decide) (bytes ++ rest)
  let member (name : String) (map : SortedMap String String) :
      Reader (SortedMap String String) :=
    fun bytes => (afterColon readString bytes).map (Step.map (map.put name))
  let next (map : SortedMap String String) (name text : String) :
      Except Cause (SortedMap String String) :=
    .ok (map.put name text)
  have read : Agrees (readMembers member true .empty (bytes ++ rest) (Nat.le_refl _))
      (entries.foldlM (addMember .ok next) .empty) rest := by
    apply agrees_readMembersOf (fun _ _ _ named rest => agrees_stringRest named rest) _ h
    rintro entry - name map before after text rest ⟨⟩ spaceBefore spaceAfter spelled -
    have text := takes_readString spelled spaceAfter rest
    exact (agrees_afterColon spaceBefore text.agrees).map _
  have all : entries.foldlM (addMember .ok next) SortedMap.empty =
      .ok (SortedMap.empty.putAll entries) :=
    List.foldlM_pure
  rw [all] at read
  obtain ⟨shorter, taken⟩ := read
  simp only [List.cons_append, readStringMap, readObjectOf, found, if_true]
  refine ⟨Nat.lt_of_lt_of_le shorter (Nat.le_of_lt le), ?_⟩
  simp only [member] at taken
  simp only [taken]
  rfl

/-- Nothing else is read as an object of strings. -/
theorem eq_of_takes_readStringMap {bytes rest : List UInt8} {map : SortedMap String String}
    (h : Takes (readStringMap bytes) map rest) :
    ∃ entries before members, Space before ∧ SpellsTexts entries members ∧
      bytes = before ++ (0x7B :: members ++ rest) ∧ map = SortedMap.empty.putAll entries := by
  obtain ⟨shorter, h⟩ := h
  unfold readStringMap readObjectOf at h
  split at h
  · cases h
  rename_i found
  obtain ⟨space, blank, same⟩ := afterSpace_eq found
  split at h
  · rename_i brace
    split at h
    · cases h
    rename_i step read
    cases h
    have each {name : String} {map next : SortedMap String String} {bytes rest : List UInt8}
        (taken : Takes ((afterColon readString bytes).map (Step.map (map.put name))) next rest) :
        ∃ value before after text, Space before ∧ Space after ∧ SpellsString value text ∧
          bytes = before ++ 0x3A :: (after ++ (text ++ rest)) ∧ next = map.put name value := by
      obtain ⟨value, read, rfl⟩ := taken.exists_of_map
      obtain ⟨before, text, blank, same, read⟩ := eq_of_takes_afterColon read
      obtain ⟨after, spelled, blank', string, more⟩ := eq_of_takes_readString read
      exact ⟨value, before, after, spelled, blank, blank', string, more ▸ same, rfl⟩
    obtain ⟨entries, members, written, inside, value⟩ :=
      eq_of_takes_readMembers (f := fun map entry => map.put entry.1 entry.2) each
        ⟨step.shorter, read⟩
    refine ⟨entries, space, members, blank, written, ?_, value⟩
    rw [same, brace, List.cons_append]
    exact congrArg (space ++ 0x7B :: ·) inside
  · exact absurd h (mismatch_ne_ok _ _ _ _)

def ofTexts (entries : List (String × String)) : Json :=
  .object (entries.map fun (name, text) => (name, .string text))

theorem membersOf_compactMembers (entries : List (String × String)) (first : Bool) :
    MembersOf SpellsName SpellsString first entries
      (Utf8.encode (compactMembers first (entries.map fun (name, text) => (name, .string text))) ++
        [0x7D]) := by
  induction entries generalizing first with
  | nil => exact .close space_nil
  | cons entry rest ih =>
    obtain ⟨name, text⟩ := entry
    have named : SpellsName name _ := spellsText_escape name.toList
    have spelled : SpellsString text _ := .string (spellsText_escape text.toList)
    have all := MembersOf.more (lead_ite first) named space_nil space_nil spelled (ih false)
    have colon : Utf8.encode ":" = [0x3A] := by decide
    simp only [List.map_cons, compactMembers, compact, Utf8.encode_append, encode_lead, colon,
      encode_stringText]
    simpa using all

end Json

/-- The texts that write a schema with these entries, with white space wherever it may stand. -/
inductive Schema.Written (entries : List (String × String)) : List UInt8 → Prop
  | object {before members after : List UInt8} : Space before → Json.SpellsTexts entries members →
      Space after → Written entries (before ++ (0x7B :: members ++ after))

theorem Schema.Written.parse {entries : List (String × String)} {text : List UInt8}
    (h : Written entries text) : Schema.parse text = .ok (SortedMap.empty.putAll entries) := by
  cases h with
  | object before members after =>
    unfold Schema.parse
    rw [Json.Reader.readAll_of_takes (Json.takes_readStringMap members before _) after]

theorem Schema.parse_eq_ok_iff {text : List UInt8} {schema : Schema} :
    parse text = .ok schema ↔
      ∃ entries, Written entries text ∧ schema = SortedMap.empty.putAll entries := by
  constructor
  · intro read
    unfold parse at read
    split at read
    · rename_i map whole
      cases read
      obtain ⟨after, blank, taken⟩ := Json.Reader.exists_takes_of_readAll whole
      obtain ⟨entries, before, members, blank', written, rfl, rfl⟩ :=
        Json.eq_of_takes_readStringMap taken
      exact ⟨entries, .object blank' written blank, rfl⟩
    · cases read
  · rintro ⟨entries, written, rfl⟩
    exact written.parse

theorem Schema.written_compact (entries : List (String × String)) :
    Written entries (Utf8.encode (Json.ofTexts entries).compact) := by
  have braces : Utf8.encode "\x7b" = [0x7B] ∧ Utf8.encode "\x7d" = [0x7D] := by decide
  have members := Json.membersOf_compactMembers entries true
  have written := Written.object Json.space_nil members Json.space_nil
  rw [Json.ofTexts, Json.compact, Utf8.encode_append, Utf8.encode_append, braces.1, braces.2]
  simpa using written

/-! ### Entries that survive -/

/-- An entry that none of the same type follows. -/
def Survives (entries : List (String × String)) (entry : String × String) : Prop :=
  ∃ before after, entries = before ++ entry :: after ∧ entry.1 ∉ after.map Prod.fst

theorem lookup_reverse_eq_some_iff {entries : List (String × String)} {entry : String × String} :
    entries.reverse.lookup entry.1 = some entry.2 ↔ Survives entries entry := by
  rw [List.lookup_eq_some_iff]
  constructor
  · rintro ⟨later, earlier, same, others⟩
    refine ⟨earlier.reverse, later.reverse, ?_, ?_⟩
    · rw [← List.reverse_reverse entries, same]
      simp
    · intro among
      obtain ⟨other, member, equal⟩ := List.mem_map.mp among
      have differ := others other (List.mem_reverse.mp member)
      simp [equal] at differ
  · rintro ⟨before, after, rfl, last⟩
    refine ⟨after.reverse, before.reverse, by simp, ?_⟩
    intro other member
    rw [bne_iff_ne]
    intro equal
    exact last (List.mem_map.mpr ⟨other, List.mem_reverse.mp member, equal.symm⟩)

/-- The entries that survive are those of the map that all are put into. -/
theorem mem_entries_putAll_iff {entries : List (String × String)} {entry : String × String} :
    entry ∈ (SortedMap.empty.putAll entries).entries ↔ Survives entries entry := by
  have found : getEntry? entry.1 (SortedMap.empty.putAll entries).entries = some entry.2 ↔ _ :=
    getEntry?_eq_some_iff (SortedMap.empty.putAll entries).ascending
  rw [← found, ← lookup_reverse_eq_some_iff, ← SortedMap.get?_putAll_empty, SortedMap.get?]

/-! ### Entries that are refused -/

namespace Registry

variable {registry : Registry} {entries : List (String × String)} {bindings : List Binding}
  {entry : String × String} {fault : Fault}

/-- What is wrong with an entry that cannot be registered. Its type is looked at before its field.
-/
inductive Refused : String × String → Fault → Prop
  | recordType {typeText field : String} : Text.isBlank typeText = true →
      Refused (typeText, field) (.invalid .blankRecordType)
  | field {recordType : RecordType} {field : String} : Text.isBlank field = true →
      Refused (recordType.text, field) (.invalid (.blankKeyField recordType))

theorem exists_refused (h : ¬Registrable entry) : ∃ fault, Refused entry fault := by
  obtain ⟨typeText, field⟩ := entry
  cases typed : Text.isBlank typeText with
  | true => exact ⟨_, .recordType typed⟩
  | false =>
    have blank : Text.isBlank field = true := by
      rw [← Bool.not_eq_false]
      exact fun kept => h ⟨typed, kept⟩
    let recordType : RecordType := ⟨typeText, typed⟩
    have refused : Refused (recordType.text, field) _ := .field blank
    exact ⟨_, refused⟩

theorem addEntry_of_refused (h : Refused entry fault) : addEntry registry entry = .error fault := by
  cases h with
  | recordType blank =>
    unfold addEntry
    rw [Tag.ofText_of_isBlank blank]
    rfl
  | @field recordType field blank =>
    unfold addEntry
    simp only [Tag.ofText_text, register, if_pos blank]
    rfl

theorem foldlM_addEntry_of_refused {before after : List (String × String)}
    (others : ∀ other ∈ before, Registrable other) (refused : Refused entry fault) :
    (before ++ entry :: after).foldlM addEntry registry = .error fault := by
  have added : before.foldlM addEntry registry = _ :=
    foldlM_addEntry_eq_ok_iff.mpr ⟨others, rfl⟩
  rw [List.foldlM_append, added]
  change (entry :: after).foldlM addEntry _ = _
  rw [List.foldlM_cons, addEntry_of_refused refused]
  rfl

/-- The survivor that is refused first: of those that cannot be registered it has the smallest type,
as bytes. -/
structure RefusedFirst (entries : List (String × String)) (entry : String × String)
    (fault : Fault) : Prop where
  survives : Survives entries entry
  refused : Refused entry fault
  least : ∀ other, Survives entries other → ¬Registrable other → other ≠ entry →
    Utf8.encode entry.1 < Utf8.encode other.1

instance (entry : String × String) : Decidable (Registrable entry) :=
  inferInstanceAs (Decidable (_ ∧ _))

/-- The map of the entries has the first one that is refused after others that are not. -/
theorem exists_refusedFirst (bad : ∃ entry, Survives entries entry ∧ ¬Registrable entry) :
    ∃ entry fault before after, RefusedFirst entries entry fault ∧
      (SortedMap.empty.putAll entries).entries = before ++ entry :: after ∧
      ∀ other ∈ before, Registrable other := by
  obtain ⟨some, survives, refused⟩ := bad
  have among := mem_entries_putAll_iff.mpr survives
  have found : ((SortedMap.empty.putAll entries).entries.find? (¬Registrable ·)).isSome = true := by
    rw [List.find?_isSome]
    exact ⟨some, among, by simpa using refused⟩
  obtain ⟨entry, first⟩ := Option.isSome_iff_exists.mp found
  obtain ⟨notRegistrable, before, after, split, earlier⟩ := List.find?_eq_some_iff_append.mp first
  have others : ∀ other ∈ before, Registrable other := by simpa using earlier
  obtain ⟨fault, refused⟩ := exists_refused (by simpa using notRegistrable)
  refine ⟨entry, fault, before, after, ⟨?_, refused, ?_⟩, split, others⟩
  · rw [← mem_entries_putAll_iff, split]
    simp
  · intro other survives bad differ
    have ascending := (SortedMap.empty.putAll entries).ascending
    rw [split, List.map_append, List.map_cons] at ascending
    have later : other ∈ after := by
      have member := mem_entries_putAll_iff.mpr survives
      rw [split, List.mem_append, List.mem_cons] at member
      rcases member with member | rfl | member
      · exact absurd (others other member) bad
      · exact absurd rfl differ
      · exact member
    have below := List.rel_of_pairwise_cons (List.pairwise_append.mp ascending).2.1
      (List.mem_map_of_mem later)
    exact Utf8.encode_lt_encode_of_compare below

/-! ### Layers as texts -/

/-- The registry that the layers come to. -/
structure Layered (entries : List (String × String)) (bindings : List Binding)
    (registry : Registry) : Prop where
  field : ∀ recordType, registry.field? recordType =
    ((bindings.reverse.find? (·.recordType = recordType)).map Binding.field).or
      ((entries.reverse.lookup recordType.text).or (builtIn.lookup recordType))
  size : registry.size = (builtIn.map (·.1.text) ++ (entries.map Prod.fst ++
    bindings.map (·.recordType.text))).dedup.length
  nonBlank : ∀ entry ∈ registry.fields.entries, Text.isBlank entry.2 = false

theorem field?_default (recordType : RecordType) :
    Registry.default.field? recordType = builtIn.lookup recordType := by
  change (SortedMap.empty.putAll _).get? _ = _
  rw [SortedMap.get?_putAll_empty]
  by_cases known : recordType ∈ builtIn.map Prod.fst
  · simp only [builtIn, List.map_cons, List.map_nil, List.mem_cons, List.not_mem_nil, or_false]
      at known
    rcases known with rfl | rfl | rfl <;> decide
  · rw [List.lookup_eq_none_iff.mpr, List.lookup_eq_none_iff.mpr]
    · intro entry member
      rw [bne_iff_ne]
      rintro rfl
      exact known (List.mem_map_of_mem member)
    · intro entry member
      rw [List.mem_reverse, List.mem_map] at member
      obtain ⟨other, among, rfl⟩ := member
      rw [bne_iff_ne]
      intro same
      rw [Tag.ext_text same] at known
      exact known (List.mem_map_of_mem among)

theorem lookup_map_entry (bindings : List Binding) (recordType : RecordType) :
    (bindings.map Binding.entry).lookup recordType.text =
      (bindings.find? (·.recordType = recordType)).map Binding.field := by
  induction bindings with
  | nil => rfl
  | cons binding rest ih =>
    rw [List.map_cons, List.lookup_cons, List.find?_cons]
    by_cases same : binding.recordType = recordType
    · simp [same, Binding.entry]
    · have differ : recordType.text ≠ binding.entry.1 :=
        fun equal => same (Tag.ext_text equal.symm)
      simp only [beq_eq_false_iff_ne.mpr differ, same, decide_false, ih]

theorem layered_ofLayers {schema : Option NamedSource} {registry : Registry}
    (read : Schema.ofLayer schema = .ok (SortedMap.empty.putAll entries))
    (made : (ofLayers schema bindings).result = .ok registry) :
    Layered entries bindings registry where
  field recordType := by
    rw [field?_of_layers read made, getEntry?_eq_lookup, ← List.map_reverse, lookup_map_entry,
      SortedMap.get?_putAll_empty, field?_default]
  size := by
    obtain ⟨-, rfl⟩ := (result_ofLayers_eq_ok_iff read).mp made
    apply SortedMap.size_eq_length_dedup
    intro key
    have known : key ∈ Registry.default.fields.keys ↔ key ∈ builtIn.map (·.1.text) :=
      SortedMap.mem_keys_putAll_empty
    have written : key ∈ (SortedMap.empty.putAll entries).entries.map Prod.fst ↔
        key ∈ entries.map Prod.fst :=
      SortedMap.mem_keys_putAll_empty
    have bound : (bindings.map Binding.entry).map Prod.fst = bindings.map (·.recordType.text) :=
      List.map_map
    rw [SortedMap.mem_keys_putAll, SortedMap.mem_keys_putAll, known, written, bound,
      List.mem_append, List.mem_append, or_assoc]
  nonBlank := by
    obtain ⟨registrable, rfl⟩ := (result_ofLayers_eq_ok_iff read).mp made
    refine SortedMap.forall_mem_putAll (P := fun field => Text.isBlank field = false) ?_ ?_
    · refine SortedMap.forall_mem_putAll (P := fun field => Text.isBlank field = false) ?_ ?_
      · decide
      · intro entry member
        exact (registrable entry (List.mem_append_left _ member)).2
    · intro entry member
      exact (registrable entry (List.mem_append_right _ member)).2

theorem exists_refusedFirst_ofLayers {layer? : Option NamedSource}
    (read : Schema.ofLayer layer? = .ok (SortedMap.empty.putAll entries))
    (bad : ∃ entry, Survives entries entry ∧ ¬Registrable entry) (bindings : List Binding) :
    ∃ entry fault, RefusedFirst entries entry fault ∧
      (ofLayers layer? bindings).result = .error fault := by
  obtain ⟨entry, fault, before, after, first, split, others⟩ := exists_refusedFirst bad
  refine ⟨entry, fault, first, ?_⟩
  rw [result_ofLayers read, split, List.append_assoc, List.cons_append]
  exact foldlM_addEntry_of_refused others first.refused

theorem exists_layered_ofLayers {layer? : Option NamedSource}
    (read : Schema.ofLayer layer? = .ok (SortedMap.empty.putAll entries))
    (registrable : ∀ entry, Survives entries entry → Registrable entry)
    (parsed : ∀ binding ∈ bindings, ∃ text, Binding.parse text = .ok binding) :
    ∃ registry, (ofLayers layer? bindings).result = .ok registry ∧
      Layered entries bindings registry := by
  have each : ∀ entry ∈ (SortedMap.empty.putAll entries).entries ++ bindings.map Binding.entry,
      Registrable entry := by
    intro entry member
    rcases List.mem_append.mp member with member | member
    · exact registrable entry (mem_entries_putAll_iff.mp member)
    · obtain ⟨binding, among, rfl⟩ := List.mem_map.mp member
      obtain ⟨_, read⟩ := parsed binding among
      exact ⟨binding.recordType.nonBlank, Binding.isBlank_field_of_parse read⟩
  have made := (result_ofLayers_eq_ok_iff read).mpr ⟨each, rfl⟩
  exact ⟨_, made, layered_ofLayers read made⟩

/-- The layers come to a registry unless an entry that survives cannot be registered; then the first
one of these, in the order of the bytes of the types, is refused. -/
theorem result_ofLayers_written {text : List UInt8} (written : Schema.Written entries text)
    (parsed : ∀ binding ∈ bindings, ∃ text, Binding.parse text = .ok binding) (path : String) :
    ((∀ entry, Survives entries entry → Registrable entry) → ∃ registry,
      (ofLayers (some ⟨path, .file text⟩) bindings).result = .ok registry ∧
        Layered entries bindings registry) ∧
    ((∃ entry, Survives entries entry ∧ ¬Registrable entry) → ∃ entry fault,
      RefusedFirst entries entry fault ∧
        (ofLayers (some ⟨path, .file text⟩) bindings).result = .error fault) := by
  have read : Schema.ofLayer (some ⟨path, .file text⟩) = .ok (SortedMap.empty.putAll entries) :=
    written.parse
  constructor
  · intro registrable
    exact exists_layered_ofLayers read registrable parsed
  · intro bad
    exact exists_refusedFirst_ofLayers read bad bindings

def overlapping : List (String × String) :=
  [("User", " "), ("Loan", "loan_id"), ("User", "username")]

theorem survives_overlapping {entry : String × String} (h : Survives overlapping entry) :
    entry = ("Loan", "loan_id") ∨ entry = ("User", "username") := by
  have entries : (SortedMap.empty.putAll overlapping).entries =
      [("Loan", "loan_id"), ("User", "username")] := by decide
  rw [← mem_entries_putAll_iff, entries] at h
  simpa using h

/-- The binding counts where there is one, and else the entry that survives; only this one has to be
fit to be registered. -/
theorem result_ofLayers_overlapping :
    Schema.Written overlapping (Utf8.encode (Json.ofTexts overlapping).compact) ∧
    ∃ binding, Binding.parse "User = uuid " = .ok binding ∧
    ∃ registry, (ofLayers (some ⟨"schema.json",
        .file (Utf8.encode (Json.ofTexts overlapping).compact)⟩) [binding]).result = .ok registry ∧
      registry.field? ⟨"User", by decide⟩ = some "uuid" ∧
      registry.field? ⟨"Loan", by decide⟩ = some "loan_id" ∧
      registry.field? ⟨"Project", by decide⟩ = some "project_id" ∧ registry.size = 4 := by
  have written := Schema.written_compact overlapping
  refine ⟨written, ⟨⟨"User", by decide⟩, "uuid"⟩, rfl, ?_⟩
  have parsed : ∀ binding ∈ [(⟨⟨"User", by decide⟩, "uuid"⟩ : Binding)],
      ∃ text, Binding.parse text = .ok binding :=
    List.forall_mem_singleton.mpr ⟨"User = uuid ", rfl⟩
  obtain ⟨accepted, -⟩ := result_ofLayers_written written parsed "schema.json"
  obtain ⟨registry, made, layered⟩ := accepted fun entry survives => by
    rcases survives_overlapping survives with rfl | rfl <;> decide
  refine ⟨registry, made, ?_, ?_, ?_, ?_⟩
  · rw [layered.field]
    decide
  · rw [layered.field]
    decide
  · rw [layered.field]
    decide
  · rw [layered.size]
    decide

end Registry

end NaturalKey
