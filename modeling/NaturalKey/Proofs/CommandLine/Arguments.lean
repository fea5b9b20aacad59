import NaturalKey.CommandLine.Arguments
import NaturalKey.Proofs.Outcome

/-!
A path to a database in front of the other arguments. It waits to be checked until one of them is
reached at which that is done, and from then on it only says where the database is: whatever else is
taken is what it would be without the path.
-/

set_option autoImplicit false

namespace NaturalKey.CommandLine

/-- Whether an option is among the arguments, before two dashes end the options. -/
def names (setting : Setting) : List String → Bool
  | [] => false
  | argument :: rest =>
    match Shape.ofText argument with
    | .separator => false
    | .long name _ => name == setting.name || names setting rest
    | .short _ | .plain => names setting rest

theorem name_of_ofName? {name : String} {setting : Setting}
    (h : Setting.ofName? name = some setting) : setting.name = name := by
  unfold Setting.ofName? at h
  have found := List.find?_some h
  exact beq_iff_eq.mp found

theorem Shape.ofText_plain {argument : String} (h : argument.toList.head? ≠ some '-') :
    Shape.ofText argument = .plain := by
  unfold Shape.ofText
  split
  · rename_i text
    simp [text] at h
  · rename_i text
    simp [text] at h
  · rename_i text
    simp [text] at h
  · rfl

inductive Request.InDatabase (path : String) : Request → Request → Prop
  | lookup {arguments : Arguments} : arguments.dbPath? = none →
      InDatabase path (.lookup arguments) (.lookup { arguments with dbPath? := some path })
  | flag (flag : Flag) : InDatabase path (.show flag) (.show flag)

namespace Taken

/-- Nothing waits to be checked, and the second differs by the path to a database alone. -/
structure Settled (path : String) (taken other : Taken) : Prop where
  pending? : taken.pending? = none
  dbPath? : taken.dbPath? = none
  same : other = { taken with dbPath? := some path }

/-- What has been taken with a path to a database in front, beside what was without. -/
inductive InFront (path : String) : Taken → Taken → Prop
  /-- Nothing but the path could have been checked, and it has not been yet. -/
  | waiting {taken : Taken} : taken.pending? = none → taken.dbPath? = none →
      InFront path taken { taken with pending? := some (.dbPath, some path) }
  | kept {taken : Taken} : (∀ value?, taken.pending? ≠ some (.dbPath, value?)) →
      taken.dbPath? = none → InFront path taken { taken with dbPath? := some path }

variable {path : String} {taken other : Taken}

theorem Settled.inFront (h : Settled path taken other) : InFront path taken other := by
  obtain ⟨nothing, unnamed, rfl⟩ := h
  apply InFront.kept
  · intro value? waits
    rw [nothing] at waits
    cases waits
  · exact unnamed

theorem Settled.keep (h : Settled path taken other) {setting : Setting} (others : setting ≠ .dbPath)
    (value : String) :
    RelatedOutcomes (Settled path) (taken.keep setting value) (other.keep setting value) := by
  obtain ⟨nothing, unnamed, rfl⟩ := h
  have has : ({ taken with dbPath? := some path } : Taken).has setting = taken.has setting := by
    cases setting with
    | dbPath => exact absurd rfl others
    | seed | tenant | schema | key => rfl
  unfold Taken.keep
  rw [has]
  split
  · exact .error _
  · split
    · exact .error _
    · cases setting with
      | dbPath => exact absurd rfl others
      | seed | tenant | schema => exact .ok ⟨nothing, unnamed, rfl⟩
      | key =>
        cases Binding.parse value with
        | ok binding => exact .ok ⟨nothing, unnamed, rfl⟩
        | error fault => exact .error _

theorem onlyPositionals_keep {setting : Setting} {value : String} {next : Taken}
    (kept : taken.keep setting value = .ok next) :
    next.onlyPositionals = taken.onlyPositionals := by
  unfold Taken.keep at kept
  split at kept
  · cases kept
  · split at kept
    · cases kept
    · cases setting with
      | seed | dbPath | tenant | schema =>
        cases kept
        rfl
      | key =>
        cases parsed : Binding.parse value with
        | error fault =>
          rw [parsed] at kept
          cases kept
        | ok binding =>
          rw [parsed] at kept
          cases kept
          rfl

theorem onlyPositionals_settle {next : Taken} (settled : taken.settle = .ok next) :
    next.onlyPositionals = taken.onlyPositionals := by
  unfold Taken.settle at settled
  split at settled
  · cases settled
    rfl
  · cases settled
  · exact (onlyPositionals_keep settled :)

theorem onlyPositionals_step (dashes : taken.onlyPositionals = true) {argument : String}
    {next : Taken} (stepped : taken.step argument = .ok (.more next)) :
    next.onlyPositionals = true := by
  unfold Taken.step Taken.positional at stepped
  rw [if_pos dashes] at stepped
  split at stepped
  · obtain ⟨positional, added, same⟩ := map_eq_ok.mp stepped
    obtain ⟨settled, settles, rfl⟩ := map_eq_ok.mp added
    cases same
    exact (onlyPositionals_settle settles).trans dashes
  · cases stepped

/-- As long as options count, no argument that is left names the option. -/
theorem unnamed_step {setting : Setting} {argument : String} {rest : List String} {next : Taken}
    (unnamed : taken.onlyPositionals = true ∨ names setting (argument :: rest) = false)
    (stepped : taken.step argument = .ok (.more next)) :
    next.onlyPositionals = true ∨ names setting rest = false := by
  rcases unnamed with dashes | unnamed
  · exact .inl (onlyPositionals_step dashes stepped)
  · unfold names at unnamed
    cases shape : Shape.ofText argument with
    | separator =>
      left
      cases dashes : taken.onlyPositionals with
      | true => exact onlyPositionals_step dashes stepped
      | false =>
        simp only [Taken.step, dashes, shape] at stepped
        cases stepped
        rfl
    | long name value? =>
      rw [shape] at unnamed
      exact .inr (Bool.or_eq_false_iff.mp unnamed).2
    | short letter | plain =>
      rw [shape] at unnamed
      exact .inr unnamed

section

variable (given : path ≠ "")
include given

theorem keep_path (unnamed : taken.dbPath? = none) :
    taken.keep .dbPath path = .ok { taken with dbPath? := some path } := by
  have filled : path.isEmpty = false := by simpa using given
  simp [keep, has, unnamed, filled, Setting.isPath]

theorem InFront.settle (h : InFront path taken other) :
    RelatedOutcomes (Settled path) taken.settle other.settle := by
  cases h with
  | waiting nothing unnamed =>
    -- Here the path is checked, while without it there is nothing to check.
    have left : taken.settle = .ok taken := by
      unfold Taken.settle
      rw [nothing]
    have right : ({ taken with pending? := some (.dbPath, some path) } : Taken).settle =
        .ok { taken with dbPath? := some path } := by
      have same : ({ taken with pending? := none } : Taken) = taken := by
        rw [← nothing]
      exact same ▸ keep_path given unnamed
    rw [left, right]
    exact .ok ⟨nothing, unnamed, rfl⟩
  | kept others unnamed =>
    unfold Taken.settle
    rcases waits : taken.pending? with _ | ⟨setting, _ | value⟩
    · exact .ok ⟨waits, unnamed, by rw [waits]⟩
    · exact .error _
    · have another : setting ≠ .dbPath := by
        rintro rfl
        exact others (some value) waits
      have settled : Settled path { taken with pending? := none }
          { taken with pending? := none, dbPath? := some path } := ⟨rfl, unnamed, rfl⟩
      exact settled.keep another value

theorem InFront.positional (h : InFront path taken other) (argument : String) :
    RelatedOutcomes (Settled path) (taken.positional argument) (other.positional argument) := by
  have same : other.positionals = taken.positionals := by
    cases h <;> rfl
  unfold Taken.positional
  rw [same]
  split
  · apply (h.settle given).map
    rintro taken _ ⟨nothing, unnamed, rfl⟩
    exact ⟨nothing, unnamed, rfl⟩
  · exact .error _

/-- The path has its value, so an argument that is no option is the first positional one or waits
behind another option. -/
theorem InFront.plain (h : InFront path taken other) (argument : String) :
    RelatedOutcomes (InFront path) (taken.plain argument) (other.plain argument) := by
  have positional := (h.positional given argument).mono Settled.inFront
  cases h with
  | waiting nothing unnamed =>
    have left : taken.plain argument = taken.positional argument := by
      unfold Taken.plain
      rw [nothing]
    rw [left]
    exact positional
  | kept others unnamed =>
    rcases waits : taken.pending? with _ | ⟨setting, _ | value⟩
    · simpa only [Taken.plain, waits] using positional
    · have another : setting ≠ .dbPath := by
        rintro rfl
        exact others none waits
      have kept : InFront path { taken with pending? := some (setting, some argument) }
          { taken with pending? := some (setting, some argument), dbPath? := some path } := by
        apply InFront.kept
        · rintro value? ⟨⟩
          exact another rfl
        · exact unnamed
      simpa only [Taken.plain, waits] using RelatedOutcomes.ok kept
    · simpa only [Taken.plain, waits] using positional

inductive ProgressInFront (path : String) : Progress → Progress → Prop
  | more {taken other : Taken} : InFront path taken other →
      ProgressInFront path (.more taken) (.more other)
  | done (flag : Flag) : ProgressInFront path (.done flag) (.done flag)

theorem InFront.long (h : InFront path taken other) {name : String}
    (another : name ≠ Setting.dbPath.name) (value? : Option String) :
    RelatedOutcomes (ProgressInFront path) (taken.long name value?) (other.long name value?) := by
  unfold Taken.long
  cases known : Setting.ofName? name with
  | some setting =>
    have others : setting ≠ .dbPath := by
      rintro rfl
      exact another (name_of_ofName? known).symm
    apply (h.settle given).bind
    intro taken other settled
    cases value? with
    | some value => exact (settled.keep others value).map fun settled => .more settled.inFront
    | none =>
      obtain ⟨-, unnamed, rfl⟩ := settled
      apply RelatedOutcomes.ok
      apply ProgressInFront.more
      apply InFront.kept
      · rintro value? ⟨⟩
        exact others rfl
      · exact unnamed
  | none =>
    cases Flag.ofName? name with
    | none => exact .error _
    | some flag =>
      cases value? with
      | some value => exact .error _
      | none => exact (h.settle given).map fun _ => .done flag

theorem InFront.short (h : InFront path taken other) (letter : Char) :
    RelatedOutcomes (ProgressInFront path) (taken.short letter) (other.short letter) := by
  unfold Taken.short
  cases Flag.ofLetter? letter with
  | some flag => exact (h.settle given).map fun _ => .done flag
  | none => exact .error _

theorem InFront.step (h : InFront path taken other) {argument : String} {rest : List String}
    (unnamed : taken.onlyPositionals = true ∨ names .dbPath (argument :: rest) = false) :
    RelatedOutcomes (ProgressInFront path) (taken.step argument) (other.step argument) := by
  have same : other.onlyPositionals = taken.onlyPositionals := by
    cases h <;> rfl
  unfold Taken.step
  rw [same]
  split
  · exact (h.positional given argument).map fun settled => .more settled.inFront
  · rename_i options
    have others := unnamed.resolve_left options
    unfold names at others
    cases shape : Shape.ofText argument with
    | separator =>
      apply RelatedOutcomes.ok
      apply ProgressInFront.more
      cases h with
      | waiting nothing unnamed => exact .waiting nothing unnamed
      | kept others unnamed => exact .kept others unnamed
    | long name value? =>
      rw [shape] at others
      have another : name ≠ Setting.dbPath.name := by
        rintro rfl
        simp at others
      exact h.long given another value?
    | short letter => exact h.short given letter
    | plain => exact (h.plain given argument).map .more

theorem InFront.finish (h : InFront path taken other) :
    RelatedOutcomes (Request.InDatabase path) taken.finish other.finish := by
  unfold Taken.finish
  apply (h.settle given).bind
  rintro taken _ ⟨-, unnamed, rfl⟩
  rcases taken.positionals with _ | ⟨recordType, _ | ⟨id, more⟩⟩
  · exact .error _
  · exact .error _
  · exact .ok (.lookup unnamed)

/-- Whatever follows, the path in front of it makes no other difference than to be in the request.
-/
theorem InFront.takeAll (h : InFront path taken other) {arguments : List String}
    (unnamed : taken.onlyPositionals = true ∨ names .dbPath arguments = false) :
    RelatedOutcomes (Request.InDatabase path) (taken.takeAll arguments)
      (other.takeAll arguments) := by
  -- Each argument leaves the second in front of the first, until both end in the same way.
  induction arguments generalizing taken other with
  | nil => exact h.finish given
  | cons argument rest ih =>
    have each := h.step given unnamed
    unfold Taken.takeAll
    generalize step : taken.step argument = progress at each
    generalize other.step argument = progress' at each
    cases each with
    | error error => exact .error error
    | ok alike =>
      cases alike with
      | more inFront => exact ih inFront (unnamed_step unnamed step)
      | done flag => exact .ok (.flag flag)

end

end Taken

theorem parse_inDatabase {arguments : List String} {path : String} (given : path ≠ "")
    (noOption : path.toList.head? ≠ some '-') (unnamed : names .dbPath arguments = false) :
    RelatedOutcomes (Request.InDatabase path) (parse arguments)
      (parse ("--db-path" :: path :: arguments)) := by
  have first : Taken.nothing.step "--db-path" =
      .ok (.more { Taken.nothing with pending? := some (.dbPath, none) }) := rfl
  have second : ({ Taken.nothing with pending? := some (.dbPath, none) } : Taken).step path =
      .ok (.more { Taken.nothing with pending? := some (.dbPath, some path) }) := by
    simp only [Taken.step, Shape.ofText_plain noOption]
    rfl
  have waiting : Taken.InFront path Taken.nothing
      { Taken.nothing with pending? := some (.dbPath, some path) } := .waiting rfl rfl
  simp only [parse, Taken.takeAll, first, second]
  exact waiting.takeAll given (.inr unnamed)

/-! ### Bindings -/

namespace Taken

variable {taken next : Taken} {setting : Setting}

def BindingsParsed (taken : Taken) : Prop :=
  ∀ binding ∈ taken.bindings, ∃ text, Binding.parse text = .ok binding

theorem BindingsParsed.keep (h : taken.BindingsParsed) {value : String}
    (kept : taken.keep setting value = .ok next) : next.BindingsParsed := by
  unfold Taken.keep at kept
  split at kept
  · cases kept
  · split at kept
    · cases kept
    · cases setting with
      | seed | dbPath | tenant | schema =>
        cases kept
        exact h
      | key =>
        cases parsed : Binding.parse value with
        | error fault =>
          rw [parsed] at kept
          cases kept
        | ok binding =>
          rw [parsed] at kept
          cases kept
          intro other member
          rcases List.mem_append.mp member with member | member
          · exact h other member
          · obtain rfl := List.mem_singleton.mp member
            exact ⟨value, parsed⟩

theorem BindingsParsed.settle (h : taken.BindingsParsed) (settled : taken.settle = .ok next) :
    next.BindingsParsed := by
  unfold Taken.settle at settled
  split at settled
  · cases settled
    exact h
  · cases settled
  · have unsettled : ({ taken with pending? := none } : Taken).BindingsParsed := h
    exact unsettled.keep settled

theorem BindingsParsed.positional (h : taken.BindingsParsed) {argument : String}
    (added : taken.positional argument = .ok next) : next.BindingsParsed := by
  unfold Taken.positional at added
  split at added
  · obtain ⟨settled, settles, rfl⟩ := map_eq_ok.mp added
    exact (h.settle settles :)
  · cases added

theorem BindingsParsed.long (h : taken.BindingsParsed) {name : String} {value? : Option String}
    (added : taken.long name value? = .ok (.more next)) : next.BindingsParsed := by
  unfold Taken.long at added
  cases known : Setting.ofName? name with
  | some setting =>
    rw [known] at added
    obtain ⟨settled, settles, added⟩ := bind_eq_ok.mp added
    cases value? with
    | some value =>
      obtain ⟨kept, keeps, same⟩ := map_eq_ok.mp added
      cases same
      exact (h.settle settles).keep keeps
    | none =>
      cases added
      exact (h.settle settles :)
  | none =>
    rw [known] at added
    cases flagged : Flag.ofName? name with
    | none =>
      rw [flagged] at added
      cases added
    | some flag =>
      rw [flagged] at added
      cases value? with
      | some value => cases added
      | none =>
        obtain ⟨settled, -, same⟩ := map_eq_ok.mp added
        cases same

theorem BindingsParsed.step (h : taken.BindingsParsed) {argument : String}
    (stepped : taken.step argument = .ok (.more next)) : next.BindingsParsed := by
  unfold Taken.step at stepped
  split at stepped
  · obtain ⟨other, added, same⟩ := map_eq_ok.mp stepped
    cases same
    exact h.positional added
  · split at stepped
    · cases stepped
      exact h
    · exact h.long stepped
    · unfold Taken.short at stepped
      split at stepped
      · obtain ⟨settled, -, same⟩ := map_eq_ok.mp stepped
        cases same
      · cases stepped
    · obtain ⟨other, added, same⟩ := map_eq_ok.mp stepped
      cases same
      unfold Taken.plain at added
      split at added
      · cases added
        exact h
      · exact h.positional added

theorem BindingsParsed.takeAll (h : taken.BindingsParsed) {arguments : List String}
    {request : Arguments} (taking : taken.takeAll arguments = .ok (.lookup request)) :
    ∀ binding ∈ request.bindings, ∃ text, Binding.parse text = .ok binding := by
  induction arguments generalizing taken with
  | nil =>
    unfold Taken.takeAll Taken.finish at taking
    obtain ⟨settled, settles, finished⟩ := bind_eq_ok.mp taking
    split at finished
    · cases finished
    · cases finished
    · cases finished
      exact h.settle settles
  | cons argument rest ih =>
    unfold Taken.takeAll at taking
    split at taking
    · cases taking
    · cases taking
    · rename_i stepped
      exact ih (h.step stepped) taking

end Taken

theorem parsed_bindings {arguments : List String} {request : Arguments}
    (h : parse arguments = .ok (.lookup request)) :
    ∀ binding ∈ request.bindings, ∃ text, Binding.parse text = .ok binding := by
  have nothing : Taken.nothing.BindingsParsed := nofun
  exact nothing.takeAll h

end NaturalKey.CommandLine
