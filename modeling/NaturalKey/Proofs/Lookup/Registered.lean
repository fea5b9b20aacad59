import NaturalKey.Proofs.Lookup.Seeded
import NaturalKey.Proofs.Registry
import NaturalKey.Proofs.Registry.Binding

/-!
Lookups of what was registered. A seed file and a lookup take the white space off a type, and so
does a binding, but a schema keeps its types and fields as they are written. What is registered with
white space around it cannot be looked for by any text; the same type and field in a binding can.
-/

set_option autoImplicit false

namespace NaturalKey.Lookup

/-! ### One record -/

section Alone

variable {record : Record} {registry : Registry} {typeText : String}

theorem having_alone (bare : record.attributes = .empty) (key : String) :
    Record.having record.tenant record.recordType ⟨key, record.id.text⟩ [record] =
      if key = record.keyField then [record] else [] := by
  have hasKey : record.HasKey key record.id.text ↔ key = record.keyField := by
    have nothing : Json.Object.empty.members = [] := rfl
    unfold Record.HasKey
    rw [bare, nothing]
    simp [eq_comm]
  unfold Record.having
  rw [List.filter_cons]
  simp [hasKey]

def answerAlone (registry : Registry) (record : Record) : Except Fault Record :=
  match registry.field? record.recordType with
  | none => .error (.unknownType record.recordType)
  | some key =>
    if key = record.keyField then .ok record
    else .error (.notFound record.recordType ⟨key, record.id.text⟩)

theorem resolves_alone (bare : record.attributes = .empty)
    (same : record.recordType.text = Text.trim typeText) (registry : Registry) :
    Resolves [record] registry record.tenant typeText record.id.text
      (answerAlone registry record) := by
  unfold answerAlone
  cases known : registry.field? record.recordType with
  | none => exact .unknown record.id.nonBlank same known
  | some key =>
    apply Resolves.known record.id.nonBlank same known
    rw [having_alone bare]
    dsimp only
    by_cases isKey : key = record.keyField
    · rw [if_pos isKey, if_pos isKey]
      exact .one record
    · rw [if_neg isKey, if_neg isKey]
      exact .none

/-- What a lookup by id for the default tenant comes to when a seed file has been loaded, and
nothing else. -/
def findSeeded (text : List UInt8) (registry : Registry) (typeText idText : String) :
    Except Fault Record :=
  ((new (Seed.Loading.ofRows MemoryStore.empty (Seed.records text)).store registry).findById
    typeText idText).result

theorem findSeeded_alone {text : List UInt8} (seeded : Seed.records text = [.ok record])
    (tenant : record.tenant = Tenant.default) (bare : record.attributes = .empty)
    (same : record.recordType.text = Text.trim typeText) (registry : Registry) :
    findSeeded text registry typeText record.id.text = answerAlone registry record := by
  unfold findSeeded
  rw [seeded, ← (resolves_alone bare same registry).result_eq, Seed.Loading.store_ofRows, tenant]
  rfl

end Alone

theorem findOne_memory_ne_unknownType (lookup : Lookup MemoryStore) (recordType : RecordType)
    (filter : Filter) (unknown : RecordType) :
    (lookup.findOne recordType filter).result ≠ .error (.unknownType unknown) := by
  have answered : Store.query lookup.store lookup.tenant recordType filter =
      .ok (lookup.store.query lookup.tenant recordType filter) := rfl
  rw [findOne_of_query lookup answered]
  generalize lookup.store.query lookup.tenant recordType filter = records
  intro failed
  cases outcome_iff.mpr failed

/-! ### Types with white space around them -/

section Stores

variable {σ : Type} [Store σ]

/-- A type with white space around it is not what any text is taken for, so its key is never used.
-/
theorem findById_of_padded {typeText : String} (padded : Text.trim typeText ≠ typeText)
    {registry other : Registry}
    (elsewhere : ∀ recordType : RecordType, recordType.text ≠ typeText →
      other.field? recordType = registry.field? recordType)
    (store : σ) (tenant : Tenant) (text idText : String) :
    findById ⟨store, other, tenant⟩ text idText =
      findById ⟨store, registry, tenant⟩ text idText := by
  unfold findById
  cases typed : (Tag.ofText (Text.trim text) : Except Fault RecordType) with
  | error fault => rfl
  | ok recordType =>
    have differ : recordType.text ≠ typeText := by
      rw [Tag.ofText_eq_ok_iff.mp typed]
      rintro rfl
      exact padded (Text.trim_trim text)
    have key : keyField ⟨store, other, tenant⟩ recordType =
        keyField ⟨store, registry, tenant⟩ recordType := by
      unfold keyField
      rw [elsewhere recordType differ]
    simp only [Traced.lift_ok_bind, key]
    rfl

end Stores

/-! ### Entries of a schema -/

/-- What an entry of a schema is good for. If there is no white space around its type, a lookup is
led to the key, and a row with the same texts is found if there is none around the field either.
With white space around its type the entry might as well not be there. As a binding the same type
and field always lead to the row. -/
theorem findById_registered {text csv : List UInt8} {path : String} {bindings : List Binding}
    {schema : Schema} {registry : Registry} {typeText field idText : String}
    (parsed : Schema.parse text = .ok schema)
    (made : (Registry.ofLayers (some ⟨path, .file text⟩) bindings).result = .ok registry)
    (entry : schema.get? typeText = some field)
    (unbound : ∀ binding ∈ bindings, binding.recordType.text ≠ typeText)
    (id : Text.isBlank idText = false)
    (row : Seed.HoldsRow csv ⟨"", typeText, field, idText, ""⟩) :
    ∃ record : Record,
      (Seed.records csv = [.ok record] ∧ record.tenant = Tenant.default ∧
        record.recordType.text = Text.trim typeText ∧ record.keyField = Text.trim field ∧
        record.id.text = Text.trim idText) ∧
      (Text.trim typeText = typeText →
        (∀ {σ : Type} [Store σ] (store : σ) (tenant : Tenant) (other : String),
          Text.isBlank other = false →
          findById ⟨store, registry, tenant⟩ typeText other =
            findOne ⟨store, registry, tenant⟩ record.recordType ⟨field, other⟩) ∧
        (∀ (store : MemoryStore) (tenant : Tenant) (other : String), Text.isBlank other = false →
          ∀ unknown, (findById ⟨store, registry, tenant⟩ typeText other).result ≠
            .error (.unknownType unknown)) ∧
        findSeeded csv registry typeText (Text.trim idText) =
          if Text.trim field = field then .ok record
          else .error (.notFound record.recordType ⟨field, Text.trim idText⟩)) ∧
      (Text.trim typeText ≠ typeText → ∀ other : Registry,
        (∀ recordType : RecordType, recordType.text ≠ typeText →
          other.field? recordType = registry.field? recordType) →
        ∀ {σ : Type} [Store σ] (store : σ) (tenant : Tenant) (typeText idText : String),
          findById ⟨store, other, tenant⟩ typeText idText =
            findById ⟨store, registry, tenant⟩ typeText idText) ∧
      ('=' ∉ typeText.toList → ∃ binding, Binding.parse (typeText ++ "=" ++ field) = .ok binding ∧
        (Registry.ofLayers none [binding]).result.isOk = true ∧
        ∀ layer? earlier other,
          (Registry.ofLayers layer? (earlier ++ [binding])).result = .ok other →
          findSeeded csv other typeText (Text.trim idText) = .ok record) := by
  have read : Schema.ofLayer (some ⟨path, .file text⟩) = .ok schema := parsed
  obtain ⟨recordType, key⟩ := Registry.registrable_of_get? read made entry
  obtain ⟨record, seeded, tenant, typed, keyed, numbered, bare⟩ :=
    row.exists_record recordType key id
  have found (registry : Registry) :
      findSeeded csv registry typeText (Text.trim idText) = answerAlone registry record := by
    rw [← numbered]
    exact findSeeded_alone seeded tenant bare typed registry
  refine ⟨record, ⟨seeded, tenant, typed, keyed, numbered⟩, ?_, ?_, ?_⟩
  · intro plain
    have known := Registry.field?_of_unbound read made entry unbound (typed.trans plain)
    refine ⟨?_, ?_, ?_⟩
    · intro σ _ store tenant other nonBlank
      exact findById_of_field _ nonBlank typed known
    · intro store tenant other nonBlank unknown
      rw [findById_of_field _ nonBlank typed known]
      exact findOne_memory_ne_unknownType _ _ _ unknown
    · rw [found, answerAlone, known, keyed, numbered]
      simp only [eq_comm]
  · intro padded other elsewhere σ _ store tenant text idText
    exact findById_of_padded padded elsewhere store tenant text idText
  · intro first
    let binding : Binding :=
      ⟨⟨Text.trim typeText, (Text.isBlank_trim typeText).trans recordType⟩, Text.trim field⟩
    refine ⟨binding, Binding.parse_append first recordType key, ?_, ?_⟩
    · exact Registry.isOk_ofLayers_binding ((Text.isBlank_trim field).trans key)
    · intro layer? earlier other made
      have same : record.recordType = binding.recordType := Tag.ext_text typed
      have known : other.field? record.recordType = some record.keyField := by
        rw [same, keyed]
        exact Registry.field?_of_last made
      rw [found, answerAlone, known]
      exact if_pos rfl

def loanSchema (typeText : String) : List UInt8 :=
  Utf8.encode ("\x7b\x22" ++ typeText ++ "\x22: \x22loan_id\x22\x7d")

def loanFile (typeText : String) : List UInt8 :=
  Csv.document ([["type", "key", "id"], [typeText, "loan_id", "l-1"]].map (List.map Utf8.encode))

def loan : RecordType :=
  ⟨"Loan", by decide⟩

theorem holdsRow_loanFile (typeText : String) :
    Seed.HoldsRow (loanFile typeText) ⟨"", typeText, "loan_id", "l-1", ""⟩ := by
  have nonempty : ∀ row ∈ [["type", "key", "id"], [typeText, "loan_id", "l-1"]], row ≠ [] := by
    simp
  have named : Seed.Named (["type", "key", "id"].map Text.trim) := by
    constructor
    · decide
    · intro column
      cases column <;> decide
  exact ⟨_, _, Seed.holds_rowsOf_document nonempty, named, Nat.le_refl _, rfl⟩

/-- The schema is accepted with white space around the name and without, but only without it do
loans have a key. -/
theorem exists_registry_loanSchema :
    ∀ typeText ∈ ["Loan", " Loan "], ∃ schema registry,
      Schema.parse (loanSchema typeText) = .ok schema ∧
        (Registry.ofLayers (some ⟨"schema.json", .file (loanSchema typeText)⟩) []).result =
          .ok registry ∧
        schema.get? typeText = some "loan_id" ∧
        registry.field? loan = if typeText = "Loan" then some "loan_id" else none := by
  have computed : ∀ typeText ∈ ["Loan", " Loan "],
      (match Schema.parse (loanSchema typeText),
          (Registry.ofLayers (some ⟨"schema.json", .file (loanSchema typeText)⟩) []).result with
        | .ok schema, .ok registry => schema.get? typeText == some "loan_id" &&
          registry.field? loan == if typeText = "Loan" then some "loan_id" else none
        | _, _ => false) = true := by
    decide +kernel
  intro typeText among
  have accepted := computed typeText among
  split at accepted
  · rename_i schema registry parsed made
    simp only [Bool.and_eq_true, beq_iff_eq] at accepted
    exact ⟨schema, registry, parsed, made, accepted.1, accepted.2⟩
  · cases accepted

/-- A schema whose only type has white space around it is accepted, but the row of that type is not
found, and the type is said to be unknown. -/
theorem findById_paddedLoan :
    ∃ schema registry, Schema.parse (loanSchema " Loan ") = .ok schema ∧
      (Registry.ofLayers (some ⟨"schema.json", .file (loanSchema " Loan ")⟩) []).result =
        .ok registry ∧
      schema.get? " Loan " = some "loan_id" ∧ Text.isBlank "l-1" = false ∧
      Seed.HoldsRow (loanFile " Loan ") ⟨"", " Loan ", "loan_id", "l-1", ""⟩ ∧
      findSeeded (loanFile " Loan ") registry " Loan " "l-1" = .error (.unknownType loan) := by
  obtain ⟨schema, registry, parsed, made, entry, unknown⟩ :=
    exists_registry_loanSchema " Loan " (by decide)
  have row := holdsRow_loanFile " Loan "
  obtain ⟨record, seeded, tenant, typed, -, numbered, bare⟩ :=
    row.exists_record (by decide) (by decide) (by decide)
  have same : record.recordType = loan := Tag.ext_text (typed.trans (by decide))
  have id : record.id.text = "l-1" := numbered.trans (by decide)
  have found := findSeeded_alone seeded tenant bare typed registry
  rw [answerAlone, same, unknown, id] at found
  exact ⟨schema, registry, parsed, made, entry, by decide, row, found⟩

/-- A loan whose type is in the schema as it is in the row is found, as it is with a binding. -/
theorem findById_registered_loan :
    ∃ schema registry, Schema.parse (loanSchema "Loan") = .ok schema ∧
      (Registry.ofLayers (some ⟨"schema.json", .file (loanSchema "Loan")⟩) []).result =
        .ok registry ∧
      schema.get? "Loan" = some "loan_id" ∧ Text.isBlank "l-1" = false ∧
      Seed.HoldsRow (loanFile "Loan") ⟨"", "Loan", "loan_id", "l-1", ""⟩ ∧
      ∃ record : Record, Seed.records (loanFile "Loan") = [.ok record] ∧
        findSeeded (loanFile "Loan") registry "Loan" "l-1" = .ok record := by
  obtain ⟨schema, registry, parsed, made, entry, -⟩ :=
    exists_registry_loanSchema "Loan" (by decide)
  have row := holdsRow_loanFile "Loan"
  have id : Text.isBlank "l-1" = false := by decide
  obtain ⟨record, ⟨seeded, -, -, -, -⟩, plain, -, -⟩ :=
    findById_registered parsed made entry nofun id row
  obtain ⟨-, -, found⟩ := plain (by decide)
  have trimmed : Text.trim "l-1" = "l-1" := by decide
  rw [trimmed, if_pos (by decide)] at found
  exact ⟨schema, registry, parsed, made, entry, id, row, record, seeded, found⟩

end NaturalKey.Lookup
