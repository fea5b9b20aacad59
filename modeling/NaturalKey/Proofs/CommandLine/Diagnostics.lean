import NaturalKey.Proofs.CommandLine.Answer
import NaturalKey.Proofs.CommandLine.Arguments
import NaturalKey.Proofs.Log

/-!
What is told of a run without databases, apart from its answer. Neither the setting of the log nor a
path to a database, which can only be told of, has a part in the answer. The log documents that a
setting is read or refused; one that it can do neither with breaks the program down.
-/

set_option autoImplicit false

namespace NaturalKey.CommandLine

/-- The two outcomes are the same but for what is told of on the way. -/
structure SaysAlike (first second : Outcome) : Prop where
  exitCode : first.exitCode = second.exitCode
  stdout : first.stdout = second.stdout
  report : first.report = second.report

/-- The warning that there is only memory. -/
def fallbackLine : String :=
  "WARN Persistent storage requested via --db-path, but 'storage-rocksdb' feature is not " ++
    "enabled. Falling back to in-memory storage."

/-- The warning is told: a registry can be made, which a flag does not ask for, and the setting
shows it. -/
inductive Warns (source : String → Source) (setting : Log.Setting) : Request → Prop
  | lookup {request : Arguments} {registry : Registry} : Makes source request (.ok registry) →
      setting.tells .keptInMemory = true → Warns source setting (.lookup request)

/-- What is told of a path to a database. -/
inductive DatabaseLines (source : String → Source) (setting : Log.Setting) (request : Request) :
    List String → Prop
  | warning : Warns source setting request → DatabaseLines source setting request [fallbackLine]
  | nothing : ¬Warns source setting request → DatabaseLines source setting request []

/-! ### Settings of the log -/

theorem saysAlike_outcomeOf {answer other : Traced Record} (setting setting' : Log.Setting)
    (h : answer.result = other.result) :
    SaysAlike (outcomeOf setting answer) (outcomeOf setting' other) := by
  unfold outcomeOf
  rw [h]
  cases other.result with
  | ok record => exact ⟨rfl, rfl, rfl⟩
  | error fault => exact ⟨rfl, rfl, rfl⟩

theorem log_outcomeOf (setting : Log.Setting) (answer : Traced Record) :
    (outcomeOf setting answer).log = Log.lines setting answer.events := by
  unfold outcomeOf
  cases answer.result with
  | ok record => rfl
  | error fault => rfl

section Settings

variable {log? log?' : Option String} {quiet loud : Log.Setting}

/-- The log is the only part of an outcome that a setting decides. -/
theorem saysAlike_of_setting (source : String → Source) (arguments : List String)
    (read : Log.Setting.parse? log? = some quiet) (read' : Log.Setting.parse? log?' = some loud) :
    SaysAlike (runWithoutDatabases source log? arguments)
      (runWithoutDatabases source log?' arguments) := by
  simp only [runWithoutDatabases, read, read']
  cases begin arguments with
  | error outcome => exact ⟨rfl, rfl, rfl⟩
  | ok request => exact saysAlike_outcomeOf _ _ rfl

theorem log_sublist (source : String → Source) (arguments : List String)
    (read : Log.Setting.parse? log? = some quiet) (read' : Log.Setting.parse? log?' = some loud)
    (within : quiet.Within loud) :
    (runWithoutDatabases source log? arguments).log.Sublist
      (runWithoutDatabases source log?' arguments).log := by
  simp only [runWithoutDatabases, read, read']
  cases begin arguments with
  | error outcome => exact List.Sublist.refl _
  | ok request =>
    simp only [log_outcomeOf]
    exact Log.lines_sublist within _

theorem runWithoutDatabases_of_torn (source : String → Source) (arguments : List String)
    (torn : Log.Setting.parse? log? = none) :
    runWithoutDatabases source log? arguments = .brokenDown := by
  simp only [runWithoutDatabases, torn]

end Settings

/-! ### A path to a database -/

section Database

variable {source : String → Source} {request : Arguments}

theorem result_lookupWithoutDatabases_inDatabase (source : String → Source) (request : Arguments)
    (path? : Option String) :
    (lookupWithoutDatabases source { request with dbPath? := path? }).result =
      (lookupWithoutDatabases source request).result := by
  simp only [result_lookupWithoutDatabases]
  rfl

theorem events_lookupWithoutDatabases_of_error {fault : Fault}
    (unknown : (registryOf source request).result = .error fault) :
    (lookupWithoutDatabases source request).events = (registryOf source request).events :=
  Traced.events_bind_error unknown _

theorem events_lookupWithoutDatabases_of_ok {registry : Registry}
    (known : (registryOf source request).result = .ok registry) :
    (lookupWithoutDatabases source request).events =
      (registryOf source request).events ++
        ((if request.dbPath?.isSome then [.keptInMemory] else []) ++
          (lookupInMemory source request registry).events) := by
  unfold lookupWithoutDatabases
  rw [Traced.events_bind_ok known]
  cases request.dbPath? with
  | none => rfl
  | some path => rfl

theorem not_warns_show (source : String → Source) (setting : Log.Setting) (flag : Flag) :
    ¬Warns source setting (.show flag) := by
  intro warns
  cases warns

theorem not_warns_of_error {fault : Fault} (setting : Log.Setting)
    (parsed : ∀ binding ∈ request.bindings, ∃ text, Binding.parse text = .ok binding)
    (unknown : (registryOf source request).result = .error fault) :
    ¬Warns source setting (.lookup request) := by
  rintro ⟨made, -⟩
  obtain ⟨registry, known, -⟩ := made.exists_registryOf parsed
  rw [unknown] at known
  cases known

theorem databaseLines_of_ok {registry : Registry} (setting : Log.Setting)
    (parsed : ∀ binding ∈ request.bindings, ∃ text, Binding.parse text = .ok binding)
    (known : (registryOf source request).result = .ok registry) :
    DatabaseLines source setting (.lookup request) (Log.lines setting [.keptInMemory]) := by
  rw [Log.lines_singleton]
  cases told : setting.tells .keptInMemory with
  | true =>
    have made := makes_registryOf parsed source
    rw [known] at made
    exact .warning (.lookup made told)
  | false =>
    refine .nothing ?_
    rintro ⟨-, shown⟩
    rw [told] at shown
    cases shown

/-- That a database is asked for is told of between the registry and the rest, if a registry can be
made, and changes nothing else. -/
theorem exists_log_inDatabase (source : String → Source) (setting : Log.Setting)
    (parsed : ∀ binding ∈ request.bindings, ∃ text, Binding.parse text = .ok binding)
    (unnamed : request.dbPath? = none) (path : String) :
    ∃ before added after, DatabaseLines source setting (.lookup request) added ∧
      (outcomeOf setting (lookupWithoutDatabases source request)).log = before ++ after ∧
      (outcomeOf setting
          (lookupWithoutDatabases source { request with dbPath? := some path })).log =
        before ++ added ++ after := by
  simp only [log_outcomeOf]
  have same : registryOf source { request with dbPath? := some path } =
      registryOf source request := rfl
  cases known : (registryOf source request).result with
  | error fault =>
    refine ⟨Log.lines setting (registryOf source request).events, [], [],
      .nothing (not_warns_of_error setting parsed known), ?_, ?_⟩
    · rw [events_lookupWithoutDatabases_of_error known, List.append_nil]
    · rw [events_lookupWithoutDatabases_of_error (same ▸ known), same, List.append_nil,
        List.append_nil]
  | ok registry =>
    refine ⟨Log.lines setting (registryOf source request).events, _,
      Log.lines setting (lookupInMemory source request registry).events,
      databaseLines_of_ok setting parsed known, ?_, ?_⟩
    · rw [events_lookupWithoutDatabases_of_ok known, unnamed]
      simp
    · have told : (lookupWithoutDatabases source { request with dbPath? := some path }).events =
          (registryOf source request).events ++
            ([.keptInMemory] ++ (lookupInMemory source request registry).events) :=
        events_lookupWithoutDatabases_of_ok (same ▸ known)
      rw [told, Log.lines_append, Log.lines_append, List.append_assoc]

end Database

/-- A path to a database in front of arguments that name none adds one line to what is told, or
nothing. -/
theorem saysAlike_inDatabase (source : String → Source) {arguments : List String}
    {request : Request} (parsed : parse arguments = .ok request) {path : String} (given : path ≠ "")
    (noOption : path.toList.head? ≠ some '-') (unnamed : names .dbPath arguments = false)
    {log? : Option String} {setting : Log.Setting}
    (read : Log.Setting.parse? log? = some setting) :
    let plain := runWithoutDatabases source log? arguments
    let named := runWithoutDatabases source log? ("--db-path" :: path :: arguments)
    SaysAlike plain named ∧
      ∃ before added after, DatabaseLines source setting request added ∧
        plain.log = before ++ after ∧ named.log = before ++ added ++ after := by
  intro plain named
  have alike := parse_inDatabase given noOption unnamed
  rw [parsed] at alike
  generalize parsed' : parse ("--db-path" :: path :: arguments) = outcome at alike
  obtain _ | @⟨_, _, alike⟩ := alike
  cases alike with
  | lookup nowhere =>
    rename_i request
    have first : plain = _ :=
      runWithoutDatabases_of_request (begin_eq_ok_iff.mpr parsed) read source
    have second : named = _ :=
      runWithoutDatabases_of_request (begin_eq_ok_iff.mpr parsed') read source
    rw [first, second]
    constructor
    · apply saysAlike_outcomeOf
      exact (result_lookupWithoutDatabases_inDatabase source request (some path)).symm
    · exact exists_log_inDatabase source setting (parsed_bindings parsed) nowhere path
  | flag flag =>
    have first : plain = ⟨0, flag.text, [], ""⟩ := by
      simp only [plain, runWithoutDatabases, read, begin, parsed]
    have second : named = ⟨0, flag.text, [], ""⟩ := by
      simp only [named, runWithoutDatabases, read, begin, parsed']
    rw [first, second]
    exact ⟨⟨rfl, rfl, rfl⟩, [], [], [], .nothing (not_warns_show source setting flag), rfl, rfl⟩

end NaturalKey.CommandLine
