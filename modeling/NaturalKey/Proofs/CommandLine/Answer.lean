import NaturalKey.CommandLine.Run
import NaturalKey.Proofs.CommandLine.Arguments
import NaturalKey.Proofs.Lookup.Seeded
import NaturalKey.Proofs.Record.Reading
import NaturalKey.Proofs.Registry.Made

/-!
What a run without databases answers. The stages of a run come one after another: the registry, the
seed file, the tenant, and the lookup with stages of its own. The first that fails is what is
reported, and nothing is written then.
-/

set_option autoImplicit false

namespace NaturalKey

/-- Whether anything was found that can be opened. -/
def Source.isOpen : Source → Bool
  | .missing _ => false
  | .directory | .file _ => true

theorem Source.ne_missing_of_isOpen {source : Source} (h : source.isOpen = true)
    (error : OsError) : source ≠ .missing error := by
  rintro rfl
  cases h

namespace CommandLine

def SeedOpens (source : String → Source) (request : Arguments) : Prop :=
  ∀ path, request.seed? = some path → ∀ error, source path ≠ .missing error

theorem seedOpens_or (source : String → Source) (request : Arguments) :
    SeedOpens source request ∨
      ∃ path error, request.seed? = some path ∧ source path = .missing error := by
  by_cases missing : ∃ path error, request.seed? = some path ∧ source path = .missing error
  · exact .inr missing
  · exact .inl fun path named error absent => missing ⟨path, error, named, absent⟩

/-- The records of the seed file, none if there is no such file. -/
def seedRecords (source : String → Source) (request : Arguments) : List Record :=
  match request.seed? with
  | none => []
  | some path => Seed.readable (Seed.rowsOf (source path))

/-! ### Stages -/

section Stages

variable {σ : Type} [Store σ] {source : String → Source} {request : Arguments}

theorem result_seed (opens : SeedOpens source request) (store : σ) :
    (seed source request store).result =
      .ok (Store.attemptAll store (seedRecords source request)) := by
  rw [seed, seedRecords]
  cases named : request.seed? with
  | none => rfl
  | some path => exact Seed.result_load_of_opens store (opens path named)

theorem result_seed_of_missing {path : String} {error : OsError}
    (named : request.seed? = some path) (missing : source path = .missing error) (store : σ) :
    (seed source request store).result = .error (.unopened error) := by
  rw [seed, named]
  exact Seed.result_load_of_missing store missing

theorem result_find_of_blank_tenant (blank : Text.isBlank request.tenant = true)
    (registry : Registry) (store : σ) :
    (find registry request store).result = .error (.invalid .blankTenant) := by
  rw [find, Tag.ofText_of_isBlank blank]
  rfl

theorem find_of_tenant {tenant : Tenant} (same : tenant.text = request.tenant)
    (registry : Registry) (store : σ) :
    find registry request store =
      Lookup.findById ⟨store, registry, tenant⟩ request.recordType request.id := by
  rw [find, ← same, Tag.ofText_text, Traced.lift_ok_bind]
  rfl

end Stages

/-- That a path to a database is told of changes nothing. -/
theorem result_lookupWithoutDatabases (source : String → Source) (request : Arguments) :
    (lookupWithoutDatabases source request).result =
      (registryOf source request).result >>= fun registry =>
        (seed source request MemoryStore.empty).result >>= fun store =>
          (find registry request store).result := by
  have inMemory (registry : Registry) : (lookupInMemory source request registry).result =
      (seed source request MemoryStore.empty).result >>= fun store =>
        (find registry request store).result := by
    rw [lookupInMemory, Traced.result_bind]
  rw [lookupWithoutDatabases, Traced.result_bind]
  congr 1
  funext registry
  rw [← inMemory]
  split <;> rfl

/-- The registry that the schema file and the bindings of a request come to. -/
def Makes (source : String → Source) (request : Arguments) : Except Fault Registry → Prop :=
  Registry.Made (request.schema?.map source) request.bindings

/-- What a run comes to after all the stages that succeed. -/
inductive ComesTo (source : String → Source) (request : Arguments) : Except Fault Record → Prop
  | noRegistry {fault : Fault} : Makes source request (.error fault) →
      ComesTo source request (.error fault)
  | noSeed {registry : Registry} {path : String} {error : OsError} :
      Makes source request (.ok registry) → request.seed? = some path →
      source path = .missing error → ComesTo source request (.error (.unopened error))
  | noTenant {registry : Registry} : Makes source request (.ok registry) →
      SeedOpens source request → Text.isBlank request.tenant = true →
      ComesTo source request (.error (.invalid .blankTenant))
  | found {registry : Registry} {tenant : Tenant} {outcome : Except Fault Record} :
      Makes source request (.ok registry) → SeedOpens source request →
      tenant.text = request.tenant →
      Lookup.Resolves (seedRecords source request) registry tenant request.recordType request.id
        outcome →
      ComesTo source request outcome

/-- Every stage succeeds, and the record is the only one in the seed file that has the id. -/
structure Answers (source : String → Source) (request : Arguments) (record : Record) : Prop where
  opens : SeedOpens source request
  nonBlank : Text.isBlank request.id = false
  only : ∃ registry tenant recordType field,
    Makes source request (.ok registry) ∧ tenant.text = request.tenant ∧
    recordType.text = Text.trim request.recordType ∧ registry.field? recordType = some field ∧
    Record.having tenant recordType ⟨field, request.id⟩ (seedRecords source request) = [record]

section ComesTo

variable {source : String → Source} {request : Arguments}

theorem comesTo_ok_iff {record : Record} :
    ComesTo source request (.ok record) ↔ Answers source request record := by
  constructor
  · intro comesTo
    cases comesTo with
    | found made opens same resolves =>
      cases resolves with
      | known id sameType keyed counted =>
        exact ⟨opens, id, _, _, _, _, made, same, sameType, keyed,
          Lookup.outcome_ok_iff.mp counted⟩
  · rintro ⟨opens, id, registry, tenant, recordType, field, made, same, sameType, keyed, only⟩
    exact .found made opens same (.known id sameType keyed (Lookup.outcome_ok_iff.mpr only))

theorem map_source_schema? (source : String → Source) (request : Arguments) :
    (request.schema?.map fun path => (⟨path, source path⟩ : NamedSource)).map NamedSource.source =
      request.schema?.map source := by
  cases request.schema? with
  | none => rfl
  | some path => rfl

section Parsed

variable (parsed : ∀ binding ∈ request.bindings, ∃ text, Binding.parse text = .ok binding)
include parsed

theorem makes_registryOf (source : String → Source) :
    Makes source request (registryOf source request).result := by
  rw [Makes, ← map_source_schema?]
  exact Registry.made_ofLayers parsed

theorem makes_error_iff {fault : Fault} :
    Makes source request (.error fault) ↔ (registryOf source request).result = .error fault := by
  rw [Makes, ← map_source_schema?]
  exact Registry.made_error_iff parsed

theorem Makes.exists_registryOf {registry : Registry} (h : Makes source request (.ok registry)) :
    ∃ other, (registryOf source request).result = .ok other ∧
      ∀ recordType, other.field? recordType = registry.field? recordType := by
  rw [Makes, ← map_source_schema?] at h
  exact h.exists_result parsed

theorem ComesTo.result_eq {outcome : Except Fault Record} (h : ComesTo source request outcome) :
    (lookupWithoutDatabases source request).result = outcome := by
  rw [result_lookupWithoutDatabases]
  cases h with
  | noRegistry failed =>
    rw [(makes_error_iff parsed).mp failed]
    rfl
  | noSeed made named missing =>
    obtain ⟨registry, known, -⟩ := made.exists_registryOf parsed
    rw [known, result_seed_of_missing named missing]
    rfl
  | noTenant made opens blank =>
    obtain ⟨registry, known, -⟩ := made.exists_registryOf parsed
    rw [known, result_seed opens]
    exact result_find_of_blank_tenant blank _ _
  | found made opens same resolves =>
    obtain ⟨registry, known, fields⟩ := made.exists_registryOf parsed
    rw [known, result_seed opens]
    exact (congrArg Traced.result (find_of_tenant same _ _)).trans
      (resolves.of_fields fields).result_eq

theorem exists_comesTo (source : String → Source) : ∃ outcome, ComesTo source request outcome := by
  have made := makes_registryOf parsed source
  cases known : (registryOf source request).result with
  | error fault => exact ⟨_, .noRegistry (known ▸ made)⟩
  | ok registry =>
    rw [known] at made
    rcases seedOpens_or source request with opens | ⟨path, error, named, missing⟩
    · cases blank : Text.isBlank request.tenant with
      | true => exact ⟨_, .noTenant made opens blank⟩
      | false =>
        obtain ⟨outcome, resolves⟩ := Lookup.exists_resolves (seedRecords source request) registry
          ⟨request.tenant, blank⟩ request.recordType request.id
        exact ⟨outcome, .found made opens rfl resolves⟩
    · exact ⟨_, .noSeed made named missing⟩

theorem comesTo_iff {outcome : Except Fault Record} :
    ComesTo source request outcome ↔ (lookupWithoutDatabases source request).result = outcome := by
  constructor
  · exact ComesTo.result_eq parsed
  · intro result
    obtain ⟨other, comesTo⟩ := exists_comesTo parsed source
    rwa [← result, comesTo.result_eq parsed]

end Parsed

end ComesTo

/-! ### What is written -/

/-- The text of a record at the end of a run: laid out over several lines, with a line break behind
it. What is read from it is the record. -/
structure Shows (record : Record) (text : String) : Prop where
  laid : ∃ lines, Utf8.encode text = lines ++ [0x0A] ∧ Json.Laid 0
    (.object [
      ("tenant", .string record.tenant.text),
      ("type", .string record.recordType.text),
      ("key_field", .string record.keyField),
      ("id", .string record.id.text),
      ("attributes", record.reread.attributes.toJson)]) lines
  readBack : record.Shallow → Record.parse (Utf8.encode text) = .ok record.reread

theorem shows_prettyText (record : Record) : Shows record (record.prettyText ++ "\n") where
  laid := by
    refine ⟨_, ?_, record.laid_prettyText⟩
    have lineBreak : Utf8.encode "\n" = [0x0A] := by decide
    rw [Utf8.encode_append, lineBreak]
  readBack := Record.parse_prettyText

/-- A report: what went wrong, and then a line for each thing more that is known about it. -/
def reportOf (message : String) (more : String) : String :=
  "Error: " ++ message ++ "\n    Diagnostic severity: error\n" ++ more ++ "\n"

/-- What is reported of the faults that can end a run. -/
inductive Reports : Fault → String → Prop
  | noSchema {error : OsError} : Reports (.io (.os error))
      (reportOf ("IO error: " ++ error.text) ("    Caused by: " ++ error.text ++ "\n"))
  | badSchema {fault : DocumentFault} : Reports (.document fault)
      (reportOf ("Serialization error: " ++ fault.text) ("    Caused by: " ++ fault.text ++ "\n"))
  | blankKeyField {recordType : RecordType} : Reports (.invalid (.blankKeyField recordType))
      (reportOf ("Validation error: Key field for " ++ recordType.text ++ " must not be empty") "")
  | noSeed {error : OsError} : Reports (.unopened error) (reportOf error.text "")
  | blankTenant : Reports (.invalid .blankTenant)
      (reportOf "Validation error: Tenant must not be empty" "")
  | blankId {text : String} : Reports (.invalidIdentifier text)
      (reportOf ("Invalid identifier: " ++ Text.quoted text)
        "diagnostic code: reclookup::invalid_identifier\n")
  | blankType : Reports (.invalid .blankRecordType)
      (reportOf "Validation error: Record type must not be empty" "")
  | unknownType {recordType : RecordType} : Reports (.unknownType recordType)
      (reportOf ("Unknown record type: " ++ recordType.text)
        ("diagnostic help: register its key field with --key TYPE=FIELD or a --schema file\n" ++
          "diagnostic code: reclookup::unknown_record_type\n"))
  | notFound {recordType : RecordType} {field value : String} :
      Reports (.notFound recordType ⟨field, value⟩)
        (reportOf (recordType.text ++ " matching " ++ field ++ "=" ++ value ++ " not found")
          "diagnostic code: reclookup::not_found\n")
  | severalMatches {recordType : RecordType} {field value : String} {count : Nat} :
      Reports (.multipleMatches recordType ⟨field, value⟩ count)
        (reportOf (toString count ++ " " ++ recordType.text ++ " records match " ++ field ++ "=" ++
            value ++ ", expected exactly one")
          ("diagnostic help: the store holds duplicate rows for a key that should be unique\n" ++
            "diagnostic code: reclookup::multiple_matches\n"))

def lineOf (label : String) : Option String → String
  | none => ""
  | some text => label ++ text ++ "\n"

theorem faultReport_eq_reportOf (fault : Fault) :
    faultReport fault = reportOf fault.text
      (lineOf "    Caused by: " fault.cause? ++ lineOf "diagnostic help: " fault.help? ++
        lineOf "diagnostic code: " fault.code?) := by
  have severity : "\n    Diagnostic severity: error\n" =
      "\n" ++ ("    Diagnostic severity: error" ++ "\n") := by
    decide
  rw [faultReport, reportOf, severity]
  dsimp only
  generalize fault.text = message, fault.cause? = cause?, fault.help? = help?, fault.code? = code?
  simp only [unlines, String.append_assoc]
  cases cause? <;> cases help? <;> cases code? <;>
    simp only [lineOf, List.cons_append, List.nil_append, List.foldr_cons, List.foldr_nil,
      String.append_assoc, String.append_empty, String.empty_append]

theorem Reports.faultReport_eq {fault : Fault} {text : String} (h : Reports fault text) :
    faultReport fault = text := by
  rw [faultReport_eq_reportOf]
  cases h with
  | noSchema | badSchema =>
    simp only [lineOf, Fault.cause?, Fault.help?, Fault.code?, String.append_empty]
    rfl
  | blankKeyField | noSeed | blankTenant | blankId | blankType | unknownType => rfl
  | @notFound recordType field value =>
    have message : (Fault.notFound recordType ⟨field, value⟩).text =
        recordType.text ++ " matching " ++ (field ++ "=" ++ value) ++ " not found" := rfl
    simp only [message, String.append_assoc]
    rfl
  | @severalMatches recordType field value count =>
    have message : (Fault.multipleMatches recordType ⟨field, value⟩ count).text =
        toString count ++ " " ++ recordType.text ++ " records match " ++ (field ++ "=" ++ value) ++
          ", expected exactly one" := rfl
    simp only [message, String.append_assoc]
    rfl

theorem ComesTo.exists_reports {source : String → Source} {request : Arguments} {fault : Fault}
    (h : ComesTo source request (.error fault)) : ∃ text, Reports fault text := by
  cases h with
  | noRegistry made =>
    cases made with
    | unread _ fails =>
      cases fails with
      | missing => exact ⟨_, .noSchema⟩
      | directory => exact ⟨_, .badSchema⟩
      | malformed _ failed =>
        unfold Schema.parse at failed
        split at failed
        · cases failed
        · cases failed
          exact ⟨_, .badSchema⟩
    | refused _ first =>
      cases first.refused with
      | recordType _ => exact ⟨_, .blankType⟩
      | field _ => exact ⟨_, .blankKeyField⟩
  | noSeed _ _ _ => exact ⟨_, .noSeed⟩
  | noTenant _ _ _ => exact ⟨_, .blankTenant⟩
  | found _ _ _ resolves =>
    cases resolves with
    | blankId _ => exact ⟨_, .blankId⟩
    | noType _ _ => exact ⟨_, .blankType⟩
    | unknown _ _ _ => exact ⟨_, .unknownType⟩
    | known _ _ _ counted =>
      generalize Record.having _ _ _ _ = records at counted
      cases counted with
      | none => exact ⟨_, .notFound⟩
      | several _ => exact ⟨_, .severalMatches⟩

/-! ### Whole runs -/

theorem begin_eq_ok_iff {arguments : List String} {request : Arguments} :
    begin arguments = .ok request ↔ parse arguments = .ok (.lookup request) := by
  unfold begin
  split <;> simp_all

theorem runWithoutDatabases_of_request {arguments : List String} {request : Arguments}
    {log? : Option String} {setting : Log.Setting} (asked : begin arguments = .ok request)
    (read : Log.Setting.parse? log? = some setting) (source : String → Source) :
    runWithoutDatabases source log? arguments =
      outcomeOf setting (lookupWithoutDatabases source request) := by
  simp only [runWithoutDatabases, read, asked]

/-- What a run without databases answers, whatever it is asked for and whatever is in the files. It
ends well exactly if every stage succeeds and one record of the seed file has the id, and then this
record is all that is written. Otherwise nothing is, and the one fault of the first stage that fails
is reported. -/
theorem runWithoutDatabases_iff_answers {arguments : List String} {request : Arguments}
    {log? : Option String} {setting : Log.Setting} (asked : begin arguments = .ok request)
    (read : Log.Setting.parse? log? = some setting) (source : String → Source) :
    let outcome := runWithoutDatabases source log? arguments
    (outcome.exitCode = 0 ↔ ∃ record, Answers source request record) ∧
    (∀ record, Answers source request record →
      outcome.stdout = record.prettyText ++ "\n" ∧ Shows record outcome.stdout ∧
        outcome.report = "") ∧
    ((¬∃ record, Answers source request record) →
      outcome.exitCode = 1 ∧ outcome.stdout = "" ∧
      ∃ fault, (∀ other, ComesTo source request (.error other) ↔ other = fault) ∧
        Reports fault outcome.report) := by
  intro outcome
  have run : outcome = _ := runWithoutDatabases_of_request asked read source
  have parsed := parsed_bindings (begin_eq_ok_iff.mp asked)
  have answers (record : Record) : Answers source request record ↔
      (lookupWithoutDatabases source request).result = .ok record :=
    comesTo_ok_iff.symm.trans (comesTo_iff parsed)
  have fails (fault : Fault) : ComesTo source request (.error fault) ↔
      (lookupWithoutDatabases source request).result = .error fault :=
    comesTo_iff parsed
  have reported (fault : Fault) (h : ComesTo source request (.error fault)) :
      Reports fault (faultReport fault) := by
    obtain ⟨text, reports⟩ := h.exists_reports
    rwa [reports.faultReport_eq]
  simp only [fails] at reported
  simp only [answers, fails, run, outcomeOf]
  cases result : (lookupWithoutDatabases source request).result with
  | ok record =>
    refine ⟨⟨fun _ => ⟨record, rfl⟩, fun _ => rfl⟩, ?_, ?_⟩
    · rintro other ⟨⟩
      exact ⟨rfl, shows_prettyText record, rfl⟩
    · intro none
      exact absurd ⟨record, rfl⟩ none
  | error fault =>
    refine ⟨⟨nofun, nofun⟩, nofun, ?_⟩
    intro _
    refine ⟨rfl, rfl, fault, ?_, reported fault result⟩
    intro other
    rw [Except.error.injEq, eq_comm]

theorem isBlank_loan : Text.isBlank "Loan" = false := by decide

def loanArguments : Arguments where
  recordType := "Loan"
  id := "l-1"
  seed? := some "records.csv"
  dbPath? := none
  tenant := "default"
  schema? := some "schema.json"
  bindings := [⟨⟨"Loan", isBlank_loan⟩, "number"⟩]

def cardArguments : Arguments :=
  { loanArguments with recordType := "Card", id := "c-1", bindings := [] }

/-- No user, no tenant, no id, and a seed file that is not there. -/
def wrongArguments : Arguments where
  recordType := "Nobody"
  id := ""
  seed? := some "others.csv"
  dbPath? := none
  tenant := " "
  schema? := none
  bindings := []

def loansSource (path : String) : Source :=
  if path = "schema.json" then
    .file (Utf8.encode "\x7b\"Card\":\"card_id\",\"Loan\":\"loan_id\"\x7d")
  else if path = "records.csv" then
    .file (Utf8.encode ("type,key,id,attributes\nCard,card_id,c-1,\n" ++
      "Loan,number,l-1,\"\x7b\"\"days\"\":[7,14]\x7d\"\n"))
  else .missing .notFound

def loanAsked : List String :=
  ["Loan", "l-1", "--seed", "records.csv", "--schema", "schema.json", "--key", "Loan=number"]

def loanText : String :=
  "\x7b\n  \"tenant\": \"default\",\n  \"type\": \"Loan\",\n  \"key_field\": \"number\",\n" ++
    "  \"id\": \"l-1\",\n  \"attributes\": \x7b\n    \"days\": [\n      7,\n      14\n    ]\n" ++
    "  \x7d\n\x7d\n"

theorem runWithoutDatabases_loan :
    runWithoutDatabases loansSource none loanAsked = ⟨0, loanText, [], ""⟩ := by
  decide +kernel

/-- A loan is found by the field of a binding and a card by that of the schema. Of everything that
can be wrong the missing seed file is noticed first. -/
theorem runWithoutDatabases_loans :
    let cardAsked := ["Card", "c-1", "--seed=records.csv", "--schema=schema.json"]
    let wrong := ["Nobody", "", "--tenant", " ", "--seed=others.csv"]
    let cardText := "\x7b\n  \"tenant\": \"default\",\n  \"type\": \"Card\",\n" ++
      "  \"key_field\": \"card_id\",\n  \"id\": \"c-1\",\n  \"attributes\": \x7b\x7d\n\x7d\n"
    let missing := "Error: No such file or directory (os error 2)\n" ++
      "    Diagnostic severity: error\n\n"
    runWithoutDatabases loansSource none loanAsked = ⟨0, loanText, [], ""⟩ ∧
      (∃ record, Answers loansSource loanArguments record ∧ Shows record loanText) ∧
      runWithoutDatabases loansSource none cardAsked = ⟨0, cardText, [], ""⟩ ∧
      (∃ record, Answers loansSource cardArguments record ∧ Shows record cardText) ∧
      runWithoutDatabases loansSource none wrong = ⟨1, "", [], missing⟩ ∧
      ∃ fault, ComesTo loansSource wrongArguments (.error fault) ∧ Reports fault missing := by
  intro cardAsked wrong cardText missing
  have asked : begin loanAsked = .ok loanArguments := rfl
  have asked' : begin cardAsked = .ok cardArguments := rfl
  have asked'' : begin wrong = .ok wrongArguments := rfl
  have read : Log.Setting.parse? none = some .default := rfl
  have second : runWithoutDatabases loansSource none cardAsked = ⟨0, cardText, [], ""⟩ := by
    decide +kernel
  have third : runWithoutDatabases loansSource none wrong = ⟨1, "", [], missing⟩ := by
    decide +kernel
  have nothing : ¬∃ record, Answers loansSource wrongArguments record := by
    rintro ⟨record, opens, -, -⟩
    exact opens "others.csv" rfl .notFound rfl
  obtain ⟨found, shown, -⟩ := runWithoutDatabases_iff_answers asked read loansSource
  obtain ⟨found', shown', -⟩ := runWithoutDatabases_iff_answers asked' read loansSource
  obtain ⟨-, -, fails⟩ := runWithoutDatabases_iff_answers asked'' read loansSource
  rw [runWithoutDatabases_loan] at found shown
  rw [second] at found' shown'
  rw [third] at fails
  obtain ⟨loan, answers⟩ := found.mp rfl
  obtain ⟨card, answers'⟩ := found'.mp rfl
  obtain ⟨-, -, fault, only, reports⟩ := fails nothing
  exact ⟨runWithoutDatabases_loan, ⟨loan, answers, (shown loan answers).2.1⟩, second,
    ⟨card, answers', (shown' card answers').2.1⟩, third, fault, (only fault).mpr rfl, reports⟩

end CommandLine

end NaturalKey
