import NaturalKey.Proofs.Lookup
import NaturalKey.Proofs.Store.Table

/-!
Lookups by id in a keyed store. Since a record replaces the one of its key, a lookup in the field
that is the key of all records of a table never meets several; what it finds is what was accepted
last.
-/

set_option autoImplicit false

namespace NaturalKey

/-- The last of the records that belongs to the table and has this id. -/
def Record.latest? (tenant : Tenant) (recordType : RecordType) (idText : String)
    (records : List Record) : Option Record :=
  records.reverse.find? fun record => record.inTable tenant recordType && record.id.text == idText

theorem Record.latest?_eq_some_iff {tenant : Tenant} {recordType : RecordType} {idText : String}
    {records : List Record} {record : Record} :
    latest? tenant recordType idText records = some record ↔
      (record.tenant = tenant ∧ record.recordType = recordType) ∧ record.id.text = idText ∧
        LastOfKey records record := by
  rw [latest?, List.find?_eq_some_iff_append, Bool.and_eq_true, inTable_iff, beq_iff_eq, and_assoc]
  apply and_congr_right
  rintro ⟨rfl, rfl⟩
  apply and_congr_right
  rintro rfl
  have sameKey (other : Record) : (!(other.inTable record.tenant record.recordType &&
      other.id.text == record.id.text)) = true ↔ ¬record.SameKey other := by
    rw [Bool.not_eq_true', ← Bool.not_eq_true, Bool.and_eq_true, inTable_iff, beq_iff_eq, SameKey]
    have ids : other.id.text = record.id.text ↔ other.id = record.id := ⟨Tag.ext_text, congrArg _⟩
    rw [ids]
    grind
  constructor
  · rintro ⟨after, before, split, last⟩
    refine ⟨before.reverse, after.reverse, ?_, ?_⟩
    · rw [← records.reverse_reverse, split]
      simp
    · intro other member
      exact (sameKey other).mp (last other (List.mem_reverse.mp member))
  · rintro ⟨before, after, rfl, last⟩
    refine ⟨after.reverse, before.reverse, by simp, ?_⟩
    intro other member
    exact (sameKey other).mpr (last other (List.mem_reverse.mp member))

namespace Lookup

open KeyedStore (Storable rows accepted_eq_filter)

variable {records : List Record} {tenant : Tenant} {recordType : RecordType} {field : String}

/-- Where one field is the key of the whole table, at most one row has a given value there. -/
theorem rows_answers_perm (unique : ∀ record ∈ Store.accepted KeyedStore.empty records,
      record.tenant = tenant → record.recordType = recordType → record.keyField = field)
    (idText : String) :
    ((rows records tenant recordType).filter (·.answers ⟨field, idText⟩)).Perm
      (Record.latest? tenant recordType idText
        (Store.accepted KeyedStore.empty records)).toList := by
  have nodup (latest? : Option Record) : latest?.toList.Nodup := by
    cases latest? <;> simp
  apply (List.perm_ext_iff_of_nodup
    ((KeyedStore.nodup_rows records tenant recordType).filter _) (nodup _)).mpr
  intro row
  rw [Option.mem_toList, Record.latest?_eq_some_iff, KeyedStore.lastOfKey_accepted_iff,
    List.mem_filter, KeyedStore.mem_rows_iff]
  have own (storable : Storable row)
      (table : row.tenant = tenant ∧ row.recordType = recordType)
      (last : LastOfKey records row) :
      row.answers ⟨field, idText⟩ = true ↔ row.id.text = idText := by
    have taken : row ∈ Store.accepted KeyedStore.empty records :=
      (KeyedStore.lastOfKey_accepted_iff.mpr ⟨storable, last⟩).mem
    have key : row.keyField = field := unique row taken table.1 table.2
    rw [Record.answers_iff, Record.HasKey]
    simp [key]
  constructor
  · rintro ⟨⟨storable, table, last⟩, answers⟩
    exact ⟨table, (own storable table last).mp answers, storable, last⟩
  · rintro ⟨table, id, storable, last⟩
    exact ⟨⟨storable, table, last⟩, (own storable table last).mpr id⟩

/-- Natural keys stay unique. As long as what a keyed store has accepted of a table has its key in
the field that is looked in, a lookup by id finds the last of the accepted records with this id,
nothing if there is none, and never several. -/
theorem findById_latest (shallow : ∀ r ∈ records, r.Shallow) (integral : ∀ r ∈ records, r.Integral)
    (trimmed : recordType.text = Text.trim recordType.text) {registry : Registry}
    (known : registry.field? recordType = some field)
    (unique : ∀ record ∈ Store.accepted KeyedStore.empty records,
      record.tenant = tenant → record.recordType = recordType → record.keyField = field)
    (idText : String) :
    let lookup := (new (Store.attemptAll KeyedStore.empty records) registry).forTenant tenant
    let result := (lookup.findById recordType.text idText).result
    (∀ otherType filter count, result ≠ .error (.multipleMatches otherType filter count)) ∧
    (Text.isBlank idText = false →
      result = match Record.latest? tenant recordType idText
          (Store.accepted KeyedStore.empty records) with
        | some record => .ok record
        | none => .error (.notFound recordType ⟨field, idText⟩)) := by
  intro lookup result
  cases id : Text.isBlank idText with
  | true =>
    have refused : result = .error (.invalidIdentifier idText) :=
      findById_of_blank_id lookup recordType.text id
    rw [refused]
    exact ⟨nofun, nofun⟩
  | false =>
    have among : ∀ row ∈ rows records tenant recordType, row ∈ records := fun row member =>
      (KeyedStore.mem_rows_iff.mp member).2.2.mem
    have read := KeyedStore.all_of_integral (fun row member => shallow row (among row member))
      fun row member => integral row (among row member)
    have asked := KeyedStore.query_of_all read ⟨field, idText⟩
    have found : result = only recordType ⟨field, idText⟩ (Record.latest? tenant recordType idText
        (Store.accepted KeyedStore.empty records)).toList := by
      rw [← only_of_perm _ _ (rows_answers_perm unique idText)]
      exact congrArg Traced.result
        ((findById_of_field lookup id trimmed known).trans (findOne_of_query lookup asked))
    rw [found]
    cases Record.latest? tenant recordType idText (Store.accepted KeyedStore.empty records) with
    | none => exact ⟨nofun, fun _ => rfl⟩
    | some record => exact ⟨nofun, fun _ => rfl⟩

def namedUser (name : String) : Record :=
  (Record.user ⟨"u-1", by decide⟩).withAttribute "name" (.string name)

/-- Of a user who was added twice the second name is found. One who was refused is not found. -/
theorem findById_latest_user :
    let refused := Record.user ⟨"u\x1f1", by decide⟩
    let users := [namedUser "Ann", refused, namedUser "Anna"]
    let lookup := (new (Store.attemptAll KeyedStore.empty users) Registry.default).forTenant
      Tenant.default
    ((∀ r ∈ users, r.Shallow) ∧ (∀ r ∈ users, r.Integral) ∧
      ∀ r ∈ Store.accepted KeyedStore.empty users,
        r.tenant = Tenant.default → r.recordType = ⟨"User", isBlank_user⟩ →
          r.keyField = "user_id") ∧
    (lookup.findById "User" "u-1").result = .ok (namedUser "Anna") ∧
      (lookup.findById "User" "u\x1f1").result =
        .error (.notFound ⟨"User", isBlank_user⟩ ⟨"user_id", "u\x1f1"⟩) := by
  intro refused users lookup
  have shallow : ∀ r ∈ users, r.Shallow := by decide +kernel
  have integral : ∀ r ∈ users, r.Integral :=
    List.forall_mem_cons.mpr ⟨⟨trivial, trivial⟩, List.forall_mem_cons.mpr
      ⟨trivial, List.forall_mem_singleton.mpr ⟨trivial, trivial⟩⟩⟩
  have unique : ∀ r ∈ Store.accepted KeyedStore.empty users,
      r.tenant = Tenant.default → r.recordType = ⟨"User", isBlank_user⟩ →
        r.keyField = "user_id" := by
    decide +kernel
  have known : Registry.default.field? ⟨"User", isBlank_user⟩ = some "user_id" := by decide
  have taken : Store.accepted KeyedStore.empty users = [namedUser "Ann", namedUser "Anna"] := by
    have user : Storable (Record.user ⟨"u-1", by decide⟩) := Record.storable_user (by decide)
    have storable (name : String) : Storable (namedUser name) := user
    have reserved : ¬Storable refused := by decide
    simp [users, accepted_eq_filter, storable, reserved]
  have results := findById_latest shallow integral (by decide) known unique
  rw [taken] at results
  refine ⟨⟨shallow, integral, unique⟩, ?_, ?_⟩
  · exact (results "u-1").2 (by decide)
  · exact (results "u\x1f1").2 (by decide)

end Lookup

end NaturalKey
