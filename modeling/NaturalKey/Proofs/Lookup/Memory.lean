import NaturalKey.Proofs.Lookup

/-!
Lookups among records in memory, where nothing is refused and nothing replaced: every record that
was added counts, and counts once for each time it was added.
-/

set_option autoImplicit false

namespace NaturalKey

/-- The records of a table that have a value in a field, as often as they are there. -/
def Record.having (tenant : Tenant) (recordType : RecordType) (filter : Filter)
    (records : List Record) : List Record :=
  records.filter fun record => decide (record.tenant = tenant ∧ record.recordType = recordType ∧
    record.HasKey filter.field filter.value)

theorem Record.having_eq_filter (tenant : Tenant) (recordType : RecordType) (filter : Filter)
    (records : List Record) :
    having tenant recordType filter records =
      (records.filter (inTable tenant recordType)).filter (·.answers filter) := by
  rw [having, List.filter_filter]
  apply List.filter_congr
  intro record _
  rw [Bool.eq_iff_iff]
  simp only [Bool.and_eq_true, decide_eq_true_eq, inTable_iff, answers_iff]
  exact ⟨fun h => ⟨h.2.2, h.1, h.2.1⟩, fun h => ⟨h.2.1, h.2.2, h.1⟩⟩

namespace Lookup

/-- What a lookup by id comes to among records in memory. The id is looked at first, then the type,
then its key field; only then do the records count. -/
inductive Resolves (records : List Record) (registry : Registry) (tenant : Tenant)
    (typeText idText : String) : Except Fault Record → Prop
  | blankId : Text.isBlank idText = true →
      Resolves records registry tenant typeText idText (.error (.invalidIdentifier idText))
  | noType : Text.isBlank idText = false → Text.trim typeText = "" →
      Resolves records registry tenant typeText idText (.error (.invalid .blankRecordType))
  | unknown {recordType : RecordType} : Text.isBlank idText = false →
      recordType.text = Text.trim typeText → registry.field? recordType = none →
      Resolves records registry tenant typeText idText (.error (.unknownType recordType))
  | known {recordType : RecordType} {field : String} {outcome : Except Fault Record} :
      Text.isBlank idText = false → recordType.text = Text.trim typeText →
      registry.field? recordType = some field →
      Outcome recordType ⟨field, idText⟩ (Record.having tenant recordType ⟨field, idText⟩ records)
        outcome →
      Resolves records registry tenant typeText idText outcome

theorem Resolves.result_eq {records : List Record} {registry : Registry} {tenant : Tenant}
    {typeText idText : String} {outcome : Except Fault Record}
    (h : Resolves records registry tenant typeText idText outcome) :
    (findById ⟨Store.attemptAll MemoryStore.empty records, registry, tenant⟩
      typeText idText).result = outcome := by
  cases h with
  | blankId id => exact findById_of_blank_id _ typeText id
  | noType id blank => exact findById_of_blank_type _ id blank
  | unknown id same field => exact findById_of_unknown _ id same field
  | known id same field counted =>
    rw [findById_of_field _ id same field,
      findOne_of_query _ (MemoryStore.query_attemptAll_empty records tenant _ _)]
    rw [Record.having_eq_filter] at counted
    exact outcome_iff.mp counted

theorem Resolves.of_fields {records : List Record} {registry other : Registry} {tenant : Tenant}
    {typeText idText : String} {outcome : Except Fault Record}
    (h : Resolves records registry tenant typeText idText outcome)
    (same : ∀ recordType, other.field? recordType = registry.field? recordType) :
    Resolves records other tenant typeText idText outcome := by
  cases h with
  | blankId id => exact .blankId id
  | noType id blank => exact .noType id blank
  | unknown id typed field => exact .unknown id typed ((same _).trans field)
  | known id typed field counted => exact .known id typed ((same _).trans field) counted

theorem exists_resolves (records : List Record) (registry : Registry) (tenant : Tenant)
    (typeText idText : String) :
    ∃ outcome, Resolves records registry tenant typeText idText outcome := by
  cases id : Text.isBlank idText with
  | true => exact ⟨_, .blankId id⟩
  | false =>
    by_cases blank : Text.trim typeText = ""
    · exact ⟨_, .noType id blank⟩
    · obtain ⟨recordType, same⟩ : ∃ recordType : RecordType, _ := Tag.exists_text_eq_trim blank
      cases field : registry.field? recordType with
      | none => exact ⟨_, .unknown id same field⟩
      | some name => exact ⟨_, .known id same field (outcome_iff.mpr rfl)⟩

/-- The complete result of a lookup by id among records in memory, through any chain of tenants.
White space around the type never counts. -/
theorem findById_memory_iff (records : List Record) (registry : Registry) (tenants : List Tenant)
    (typeText idText : String) :
    let lookup :=
      tenants.foldl forTenant (new (Store.attemptAll MemoryStore.empty records) registry)
    (∀ outcome, (lookup.findById typeText idText).result = outcome ↔
      Resolves records registry (tenants.getLast?.getD Tenant.default) typeText idText outcome) ∧
    ∀ before after, Text.isBlank before = true → Text.isBlank after = true →
      lookup.findById (before ++ typeText ++ after) idText = lookup.findById typeText idText := by
  intro lookup
  constructor
  · intro outcome
    have chain : lookup = ⟨Store.attemptAll MemoryStore.empty records, registry,
        tenants.getLast?.getD Tenant.default⟩ := foldl_forTenant _ tenants
    rw [chain]
    constructor
    · intro result
      obtain ⟨other, resolves⟩ :=
        exists_resolves records registry (tenants.getLast?.getD Tenant.default) typeText idText
      rw [← result, resolves.result_eq]
      exact resolves
    · exact Resolves.result_eq
  · intro before after blank blank'
    exact findById_pad lookup blank blank' typeText idText

/-- A user who is there is found, and white space around the type makes no difference. -/
theorem findById_memory_user :
    let user := Record.user ⟨"u-1", by decide⟩
    let lookup := [Tenant.default].foldl forTenant
      (new (Store.attemptAll MemoryStore.empty [user]) Registry.default)
    (lookup.findById "User" "u-1").result = .ok user ∧
      lookup.findById ("\t" ++ "User" ++ "\n") "u-1" = lookup.findById "User" "u-1" := by
  intro user lookup
  obtain ⟨results, padded⟩ :=
    findById_memory_iff [user] Registry.default [Tenant.default] "User" "u-1"
  have found : Record.having Tenant.default ⟨"User", by decide⟩ ⟨"user_id", "u-1"⟩ [user] =
      [user] := by
    rw [Record.having, List.filter_cons, if_pos (by decide)]
    rfl
  have same : (⟨"User", by decide⟩ : RecordType).text = Text.trim "User" := by decide
  have known : Registry.default.field? ⟨"User", by decide⟩ = some "user_id" := by decide
  have resolves : Resolves [user] Registry.default Tenant.default "User" "u-1" (.ok user) := by
    apply Resolves.known (by decide) same known
    rw [found]
    exact .one user
  exact ⟨(results _).mpr resolves, padded "\t" "\n" (by decide) (by decide)⟩

end Lookup

end NaturalKey
