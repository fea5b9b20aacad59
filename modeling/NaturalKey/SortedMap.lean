/-!
Maps kept as lists in ascending order of their keys, so that a map is determined by what it holds
and is walked in the order of its keys. Putting a key that is present replaces its value.
-/

set_option autoImplicit false

namespace NaturalKey

variable {α β : Type} [Ord α]

/-- Keys in strictly ascending order. -/
def Ascending (keys : List α) : Prop :=
  keys.Pairwise (compare · · = .lt)

def putEntry (key : α) (value : β) : List (α × β) → List (α × β)
  | [] => [(key, value)]
  | (k, v) :: rest =>
    match compare key k with
    | .lt => (key, value) :: (k, v) :: rest
    | .eq => (k, value) :: rest
    | .gt => (k, v) :: putEntry key value rest

def getEntry? (key : α) (entries : List (α × β)) : Option β :=
  (entries.find? fun entry => compare key entry.1 == .eq).map Prod.snd

theorem mem_putEntry {key : α} {value : β} {entries : List (α × β)} {entry : α × β}
    (h : entry ∈ putEntry key value entries) : entry.2 = value ∨ entry ∈ entries := by
  induction entries with
  | nil => simp_all [putEntry]
  | cons old rest ih =>
    simp only [putEntry] at h
    split at h <;> grind

theorem mem_keys_putEntry {key : α} {value : β} {entries : List (α × β)} {k : α}
    (h : k ∈ (putEntry key value entries).map Prod.fst) : k = key ∨ k ∈ entries.map Prod.fst := by
  induction entries with
  | nil => simp_all [putEntry]
  | cons old rest ih =>
    obtain ⟨k', v'⟩ := old
    simp only [putEntry] at h
    split at h <;> grind

theorem ascending_putEntry [Std.TransOrd α] (key : α) (value : β) {entries : List (α × β)}
    (h : Ascending (entries.map Prod.fst)) :
    Ascending ((putEntry key value entries).map Prod.fst) := by
  induction entries with
  | nil => simp [putEntry, Ascending]
  | cons old rest ih =>
    obtain ⟨k, v⟩ := old
    have tail := List.Pairwise.of_cons h
    have below : ∀ other ∈ rest.map Prod.fst, compare k other = .lt :=
      fun _ member => List.rel_of_pairwise_cons h member
    simp only [putEntry]
    split <;> rename_i order
    · refine List.Pairwise.cons (fun other member => ?_) h
      rcases List.mem_cons.mp member with rfl | member
      · exact order
      · exact Std.TransCmp.lt_trans order (below other member)
    · exact List.Pairwise.cons below tail
    · refine List.Pairwise.cons (fun other member => ?_) (ih tail)
      rcases mem_keys_putEntry member with rfl | member
      · exact Std.OrientedCmp.lt_of_gt order
      · exact below other member

/-- A finite map whose entries stand in ascending order of their keys. -/
structure SortedMap (α β : Type) [Ord α] where
  entries : List (α × β)
  ascending : Ascending (entries.map Prod.fst)

namespace SortedMap

def empty : SortedMap α β where
  entries := []
  ascending := List.Pairwise.nil

instance : Inhabited (SortedMap α β) := ⟨empty⟩

def get? (map : SortedMap α β) (key : α) : Option β :=
  getEntry? key map.entries

def size (map : SortedMap α β) : Nat :=
  map.entries.length

def keys (map : SortedMap α β) : List α :=
  map.entries.map Prod.fst

variable [Std.TransOrd α]

def put (map : SortedMap α β) (key : α) (value : β) : SortedMap α β where
  entries := putEntry key value map.entries
  ascending := ascending_putEntry key value map.ascending

/-- Puts the entries one after another: of a repeated key the last value stays. -/
def ofList (entries : List (α × β)) : SortedMap α β :=
  entries.foldl (fun map entry => map.put entry.1 entry.2) empty

end SortedMap

end NaturalKey
