import NaturalKey.Fault

/-!
What happens on the way to an answer. Events are told to whoever watches and never decide anything:
an operation is a list of events beside its result, and only the result is handed on.
-/

set_option autoImplicit false

namespace NaturalKey

inductive Level where
  | error
  | warn
  | info
  | debug
  | trace
deriving DecidableEq, Repr

def Level.name : Level → String
  | .error => "ERROR"
  | .warn => "WARN"
  | .info => "INFO"
  | .debug => "DEBUG"
  | .trace => "TRACE"

/-- How much of what happens is told at a level: 1 for errors alone, 5 for everything. -/
def Level.verbosity : Level → Nat
  | .error => 1
  | .warn => 2
  | .info => 3
  | .debug => 4
  | .trace => 5

inductive Event where
  /-- A database was asked for, but records are kept in memory only. -/
  | keptInMemory
  | schemaLoaded (path : String)
  | rowUnreadable (fault : Fault)
  | rowUnstorable (fault : Fault)
  | seeded (loaded : Nat) (path : String)
  | lookedUp (tenant : Tenant) (recordType : RecordType) (filter : Filter) (matching : Nat)

def Event.level : Event → Level
  | .keptInMemory | .rowUnreadable _ | .rowUnstorable _ => .warn
  | .seeded .. => .info
  | .schemaLoaded _ | .lookedUp .. => .debug

/-- A result and the events before it, the first one first. -/
structure Traced (α : Type) where
  events : List Event
  result : Except Fault α

namespace Traced

variable {α β : Type}

def pure (value : α) : Traced α := ⟨[], .ok value⟩

def fail (fault : Fault) : Traced α := ⟨[], .error fault⟩

def ofResult (result : Except Fault α) : Traced α := ⟨[], result⟩

def tell (event : Event) : Traced Unit := ⟨[event], .ok ()⟩

/-- Goes on with the result; after a fault nothing more happens. -/
def bind (first : Traced α) (next : α → Traced β) : Traced β :=
  match first.result with
  | .ok value => ⟨first.events ++ (next value).events, (next value).result⟩
  | .error fault => ⟨first.events, .error fault⟩

instance : Monad Traced where
  pure := pure
  bind := bind

instance : MonadLift (Except Fault) Traced where
  monadLift := ofResult

@[simp]
theorem result_pure (value : α) : (Pure.pure value : Traced α).result = .ok value := rfl

@[simp]
theorem events_pure (value : α) : (Pure.pure value : Traced α).events = [] := rfl

@[simp]
theorem result_bind (first : Traced α) (next : α → Traced β) :
    (first >>= next).result = first.result >>= fun value => (next value).result := by
  show (first.bind next).result = _
  unfold bind
  cases h : first.result <;> rfl

theorem events_bind_ok {first : Traced α} {value : α} (h : first.result = .ok value)
    (next : α → Traced β) : (first >>= next).events = first.events ++ (next value).events := by
  show (first.bind next).events = _
  simp [bind, h]

theorem events_bind_error {first : Traced α} {fault : Fault} (h : first.result = .error fault)
    (next : α → Traced β) : (first >>= next).events = first.events := by
  show (first.bind next).events = _
  simp [bind, h]

end Traced

end NaturalKey
