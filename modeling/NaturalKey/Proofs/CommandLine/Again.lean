import NaturalKey.Proofs.CommandLine.Answer
import NaturalKey.Proofs.Database.Opening
import NaturalKey.Proofs.Seed.Loading

/-!
Runs that are repeated. A run with a database leaves there what it has loaded. When it is repeated,
with the seed file or without it, the database comes to hold what it held, and so the answer is the
same.
-/

set_option autoImplicit false

namespace NaturalKey.CommandLine

structure AnswersAlike (first second : Outcome) : Prop where
  exitCode : first.exitCode = second.exitCode
  stdout : first.stdout = second.stdout

theorem answersAlike_outcomeOf {answer other : Traced Record} (setting setting' : Log.Setting)
    (h : answer.result.toOption = other.result.toOption) :
    AnswersAlike (outcomeOf setting answer) (outcomeOf setting' other) := by
  rw [outcomeOf, outcomeOf]
  cases result : answer.result with
  | ok record =>
    cases result' : other.result with
    | ok record' =>
      rw [result, result'] at h
      cases h
      exact ⟨rfl, rfl⟩
    | error fault =>
      rw [result, result'] at h
      cases h
  | error fault =>
    cases result' : other.result with
    | ok record =>
      rw [result, result'] at h
      cases h
    | error fault' => exact ⟨rfl, rfl⟩

/-- A lookup in a database sees nothing of it but its store. -/
theorem find_eq_of_store {database other : Database} (h : database.store = other.store)
    (registry : Registry) (request : Arguments) :
    find registry request database = find registry request other := by
  have query (tenant : Tenant) (recordType : RecordType) (filter : Filter) :
      Store.query database tenant recordType filter = Store.query other tenant recordType filter :=
    congrArg (fun store : KeyedStore => store.query tenant recordType filter) h
  have findById (tenant : Tenant) :
      ((Lookup.new database registry).forTenant tenant).findById request.recordType request.id =
        ((Lookup.new other registry).forTenant tenant).findById request.recordType request.id := by
    apply Lookup.findById_eq_of_findOne
    · rfl
    · intro recordType filter
      simp only [Lookup.findOne, Lookup.forTenant, Lookup.new, query]
  simp only [find, findById]

section Database

variable {directory opened : Directory} {request : Arguments} {path : String} {place : Place}
  {database : Database}

theorem lookupInDatabase_of_no_registry {fault : Fault}
    (unknown : (registryOf directory.source request).result = .error fault) (path : String) :
    (lookupInDatabase directory request path).1.result.toOption = none := by
  simp only [lookupInDatabase, unknown]
  rfl

theorem lookupInDatabase_of_unopened {fault : Fault}
    (unopened : (directory.openDatabase path).1 = .error fault) (request : Arguments) :
    (lookupInDatabase directory request path).1.result.toOption = none := by
  rw [lookupInDatabase]
  dsimp only
  split
  · rfl
  · split
    · rfl
    · rename_i opens
      rw [opens] at unopened
      cases unopened

/-- What is loaded is what is looked at and what stays. -/
theorem lookupInDatabase_of_opens {registry : Registry}
    (known : (registryOf directory.source request).result = .ok registry)
    (opens : directory.openDatabase path = (.ok (place, database), opened))
    (seedOpens : SeedOpens opened.source request) :
    let loaded := Store.attemptAll database (seedRecords opened.source request)
    (lookupInDatabase directory request path).1.result = (find registry request loaded).result ∧
      (lookupInDatabase directory request path).2 = opened.putDatabase place loaded := by
  intro loaded
  have seeded : (seed opened.source request database).result = .ok loaded :=
    result_seed seedOpens database
  constructor
  · simp only [lookupInDatabase, known, opens, Traced.result_bind, seeded]
    rfl
  · simp only [lookupInDatabase, known, opens, seeded]
    rfl

theorem run_of_request {arguments : List String} {log? : Option String} {setting : Log.Setting}
    (read : Log.Setting.parse? log? = some setting) (asked : begin arguments = .ok request)
    (named : request.dbPath? = some path) :
    run directory log? arguments =
      (outcomeOf setting (lookupInDatabase directory request path).1,
        (lookupInDatabase directory request path).2) := by
  simp only [run, read, asked, lookup, named]

theorem run_of_torn {log? : Option String} (torn : Log.Setting.parse? log? = none)
    (directory : Directory) (arguments : List String) :
    run directory log? arguments = (.brokenDown, directory) := by
  simp only [run, torn]

end Database

/-- The same is asked for again, with the seed file or without it. -/
def AsksAgain (request again : Arguments) : Prop :=
  again = request ∨ again = { request with seed? := none }

namespace AsksAgain

variable {request again : Arguments} {source source' : String → Source}

theorem dbPath?_eq (h : AsksAgain request again) : again.dbPath? = request.dbPath? := by
  rcases h with rfl | rfl <;> rfl

theorem find_eq {σ : Type} [Store σ] (h : AsksAgain request again) (registry : Registry)
    (store : σ) : find registry again store = find registry request store := by
  rcases h with rfl | rfl <;> rfl

theorem registryOf_eq (h : AsksAgain request again)
    (schema : ∀ file, request.schema? = some file → source' file = source file) :
    registryOf source' again = registryOf source request := by
  have same : registryOf source' again = registryOf source' request := by
    rcases h with rfl | rfl <;> rfl
  rw [same, registryOf, registryOf]
  cases given : request.schema? with
  | none => rfl
  | some file => rw [Option.map_some, Option.map_some, schema file given]

theorem seedOpens (h : AsksAgain request again) (opens : SeedOpens source request)
    (seed : ∀ file, again.seed? = some file → source' file = source file) :
    SeedOpens source' again := by
  rcases h with rfl | rfl
  · intro file given
    rw [seed file given]
    exact opens file given
  · nofun

theorem attemptAll_seedRecords (h : AsksAgain request again)
    (seed : ∀ file, again.seed? = some file → source' file = source file) (store : KeyedStore) :
    Store.attemptAll (Store.attemptAll store (seedRecords source request))
        (seedRecords source' again) =
      Store.attemptAll store (seedRecords source request) := by
  rcases h with rfl | rfl
  · have same : seedRecords source' again = seedRecords source again := by
      rw [seedRecords, seedRecords]
      cases given : again.seed? with
      | none => rfl
      | some file => simp only [seed file given]
    rw [same, KeyedStore.attemptAll_again]
  · rfl

end AsksAgain

/-- A lookup that is repeated after the database was opened again comes to the same. -/
theorem result_lookupInDatabase_again {directory opened reopened : Directory}
    {request again : Arguments} {path : String} {place place' : Place}
    {database database' : Database} {registry : Registry} (same : AsksAgain request again)
    (known : (registryOf directory.source request).result = .ok registry)
    (opens : directory.openDatabase path = (.ok (place, database), opened))
    (seedOpens : SeedOpens opened.source request)
    (known' : (registryOf (lookupInDatabase directory request path).2.source again).result =
      .ok registry)
    (reopens : (lookupInDatabase directory request path).2.openDatabase path =
      (.ok (place', database'), reopened))
    (seed : ∀ file, again.seed? = some file → reopened.source file = opened.source file) :
    (lookupInDatabase (lookupInDatabase directory request path).2 again path).1.result =
      (lookupInDatabase directory request path).1.result := by
  obtain ⟨result, left⟩ := lookupInDatabase_of_opens known opens seedOpens
  obtain ⟨result', -⟩ :=
    lookupInDatabase_of_opens known' reopens (same.seedOpens seedOpens seed)
  rw [left] at reopens
  have kept : database'.store =
      (Store.attemptAll database (seedRecords opened.source request)).store :=
    Directory.store_of_openDatabase_again opens reopens
  have held : (Store.attemptAll database' (seedRecords reopened.source again)).store =
      (Store.attemptAll database (seedRecords opened.source request)).store := by
    rw [Database.store_attemptAll, kept, Database.store_attemptAll,
      same.attemptAll_seedRecords seed]
  rw [result, result', same.find_eq, find_eq_of_store held]

/-- A lookup finds the same record again, or none again, if the registry is the same, the database
can be opened again where it could be before, and the seed file is as it was. -/
theorem toOption_lookupInDatabase_again {directory : Directory} {request again : Arguments}
    {path : String} (same : AsksAgain request again)
    (registry : registryOf (lookupInDatabase directory request path).2.source again =
      registryOf directory.source request)
    (reopens : ((lookupInDatabase directory request path).2.openDatabase path).1.isOk =
      (directory.openDatabase path).1.isOk)
    (seedOpens : SeedOpens (directory.openDatabase path).2.source request)
    (seed : ∀ file, again.seed? = some file →
      ((lookupInDatabase directory request path).2.openDatabase path).2.source file =
        (directory.openDatabase path).2.source file) :
    (lookupInDatabase (lookupInDatabase directory request path).2 again path).1.result.toOption =
      (lookupInDatabase directory request path).1.result.toOption := by
  cases known : (registryOf directory.source request).result with
  | error fault =>
    rw [lookupInDatabase_of_no_registry known]
    apply lookupInDatabase_of_no_registry
    rw [registry, known]
  | ok registered =>
    rcases opens : directory.openDatabase path with ⟨fault | ⟨place, database⟩, opened⟩
    · rw [opens] at reopens
      rw [lookupInDatabase_of_unopened (congrArg Prod.fst opens)]
      rcases opens' : (lookupInDatabase directory request path).2.openDatabase path with
        ⟨fault' | found, reopened⟩
      · exact lookupInDatabase_of_unopened (congrArg Prod.fst opens') again
      · rw [opens'] at reopens
        cases reopens
    · rw [opens] at reopens seedOpens seed
      rcases opens' : (lookupInDatabase directory request path).2.openDatabase path with
        ⟨fault | ⟨place', database'⟩, reopened⟩
      · rw [opens'] at reopens
        cases reopens
      · rw [opens'] at seed
        have known' := known
        rw [← registry] at known'
        exact congrArg Except.toOption
          (result_lookupInDatabase_again same known opens seedOpens known' opens' seed)

/-- Both settings of the log are read or refused, or both break the program down. -/
def LogsAlike (log? log?' : Option String) : Prop :=
  (Log.Setting.parse? log?).isSome = (Log.Setting.parse? log?').isSome

/-- A run that is repeated where it was made answers as it did, if the database can be opened again
where it could be before, and the files are as they were. -/
theorem answersAlike_run_again {directory : Directory} {arguments again : List String}
    {request request' : Arguments} {path : String} {log? log?' : Option String}
    (logs : LogsAlike log? log?') (asked : begin arguments = .ok request)
    (asked' : begin again = .ok request') (same : AsksAgain request request')
    (named : request.dbPath? = some path)
    (reopens : ((run directory log? arguments).2.openDatabase path).1.isOk =
      (directory.openDatabase path).1.isOk)
    (seedOpens : SeedOpens (directory.openDatabase path).2.source request)
    (schema : ∀ file, request.schema? = some file →
      (run directory log? arguments).2.source file = directory.source file)
    (seed : ∀ file, request'.seed? = some file →
      ((run directory log? arguments).2.openDatabase path).2.source file =
        (directory.openDatabase path).2.source file) :
    AnswersAlike (run (run directory log? arguments).2 log?' again).1
      (run directory log? arguments).1 := by
  unfold LogsAlike at logs
  cases read : Log.Setting.parse? log? with
  | none =>
    rw [read] at logs
    have torn : Log.Setting.parse? log?' = none := by simpa using logs.symm
    rw [run_of_torn read, run_of_torn torn]
    exact ⟨rfl, rfl⟩
  | some setting =>
    rw [read] at logs
    obtain ⟨setting', read'⟩ := Option.isSome_iff_exists.mp logs.symm
    have first : run directory log? arguments = _ := run_of_request read asked named
    rw [first] at reopens schema seed ⊢
    rw [run_of_request read' asked' (same.dbPath?_eq.trans named)]
    apply answersAlike_outcomeOf
    exact toOption_lookupInDatabase_again same (same.registryOf_eq schema) reopens seedOpens seed

/-- Loading a seed file again has no effect. Whatever a keyed store or a database holds and whatever
is in the file, the second time leaves what the first time left, and as many rows are taken and the
same is told of the others. So a run that is repeated with the same database, with the seed file or
without it, answers as it did. -/
theorem run_again :
    (∀ (store : KeyedStore) (text : List UInt8),
      let once := Seed.Loading.ofRows store (Seed.records text)
      Seed.Loading.ofRows once.store (Seed.records text) = once) ∧
    (∀ (database : Database) (text : List UInt8),
      let once := Seed.Loading.ofRows database (Seed.records text)
      Seed.Loading.ofRows once.store (Seed.records text) = once) ∧
    ∀ {directory : Directory} {arguments again : List String} {request request' : Arguments}
      {path : String} {log? log?' : Option String}, LogsAlike log? log?' →
      begin arguments = .ok request → begin again = .ok request' → AsksAgain request request' →
      request.dbPath? = some path →
      let opening := directory.openDatabase path
      let first := run directory log? arguments
      let reopening := first.2.openDatabase path
      reopening.1.isOk = opening.1.isOk → SeedOpens opening.2.source request →
      (∀ file, request.schema? = some file → first.2.source file = directory.source file) →
      (∀ file, request'.seed? = some file →
        reopening.2.source file = opening.2.source file) →
      AnswersAlike (run first.2 log?' again).1 first.1 :=
  ⟨fun store text => store.ofRows_again (Seed.records text),
    fun database text => database.ofRows_again (Seed.records text), answersAlike_run_again⟩

def userText : List UInt8 :=
  Utf8.encode "type,key,id\nUser,user_id,u-1\n"

def userDirectory : Directory :=
  Directory.empty.putFile "user.csv" userText

/-- A user who was loaded into a new database is found again without the seed file. -/
theorem run_again_user :
    let arguments := ["User", "u-1", "--seed", "user.csv", "--db-path", "db"]
    let again := ["User", "u-1", "--db-path", "db"]
    let first := run userDirectory none arguments
    first.1.exitCode = 0 ∧ AnswersAlike (run first.2 none again).1 first.1 := by
  intro arguments again first
  let request : Arguments := ⟨"User", "u-1", some "user.csv", some "db", "default", none, []⟩
  have asked : begin arguments = .ok request := rfl
  have asked' : begin again = .ok { request with seed? := none } := rfl
  have opens : (userDirectory.openDatabase "db").1.isOk = true := by decide +kernel
  have reopens : (first.2.openDatabase "db").1.isOk = true := by
    rw [Directory.isOk_openDatabase]
    decide +kernel
  have there : ((userDirectory.openDatabase "db").2.source "user.csv").isOpen = true := by
    decide +kernel
  have seedOpens : SeedOpens (userDirectory.openDatabase "db").2.source request := by
    rintro path ⟨⟩
    exact Source.ne_missing_of_isOpen there
  have code : first.1.exitCode = 0 := by decide +kernel
  obtain ⟨-, -, runs⟩ := run_again
  exact ⟨code,
    runs rfl asked asked' (.inr rfl) rfl (reopens.trans opens.symm) seedOpens nofun nofun⟩

end NaturalKey.CommandLine
