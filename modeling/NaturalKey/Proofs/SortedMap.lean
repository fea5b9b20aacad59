import Mathlib.Data.List.Dedup
import Mathlib.Data.List.Sort
import NaturalKey.SortedMap

/-!
What a sorted map holds. Putting an entry replaces the one of its key and touches no other; it can
be done before or after the values are changed, or the keys of other kinds are left out, to the same
effect. A key below all others goes to the front and one above them to the end. Of a map that
entries are put into one after another nothing but what is found in it counts, and the last entry of
a key is found: putting the same entries again changes nothing.
-/

set_option autoImplicit false

namespace NaturalKey

variable {α β γ : Type} [Ord α]

theorem Ascending.tail {key : α} {keys : List α} (h : Ascending (key :: keys)) : Ascending keys :=
  List.Pairwise.of_cons h

theorem Ascending.head_lt {key k : α} {keys : List α} (h : Ascending (key :: keys))
    (member : k ∈ keys) : compare key k = .lt :=
  List.rel_of_pairwise_cons h member

theorem map_putEntry (f : β → γ) (key : α) (value : β) (entries : List (α × β)) :
    (putEntry key value entries).map (fun entry => (entry.1, f entry.2)) =
      putEntry key (f value) (entries.map fun entry => (entry.1, f entry.2)) := by
  induction entries with
  | nil => rfl
  | cons old rest ih =>
    obtain ⟨k, v⟩ := old
    simp only [putEntry, List.map_cons]
    cases compare key k with
    | lt => rfl
    | eq => rfl
    | gt => rw [List.map_cons, ih]

theorem getEntry?_eq_some_iff [Std.TransOrd α] [Std.LawfulEqOrd α] {key : α} {value : β}
    {entries : List (α × β)} (ascending : Ascending (entries.map Prod.fst)) :
    getEntry? key entries = some value ↔ (key, value) ∈ entries := by
  induction entries with
  | nil => simp [ getEntry?]
  | cons old rest ih =>
    obtain ⟨k, v⟩ := old
    rw [ getEntry?, List.find?_cons]
    cases order : compare key k with
    | eq =>
      obtain rfl : key = k := Std.LawfulEqOrd.eq_of_compare order
      have fresh : (key, value) ∉ rest := by
        intro member
        have := ascending.head_lt (List.mem_map_of_mem member)
        simp at this
      simp [fresh, eq_comm]
    | lt =>
      have differ : key ≠ k := by
        rintro rfl
        simp at order
      simpa [differ, getEntry?] using ih ascending.tail
    | gt =>
      have differ : key ≠ k := by
        rintro rfl
        simp at order
      simpa [differ, getEntry?] using ih ascending.tail

/-- No two entries have the same key, so their order does not matter to the one that is found. -/
theorem getEntry?_reverse [Std.TransOrd α] [Std.LawfulEqOrd α] {key : α} {entries : List (α × β)}
    (ascending : Ascending (entries.map Prod.fst)) :
    getEntry? key entries.reverse = getEntry? key entries := by
  induction entries with
  | nil => rfl
  | cons old rest ih =>
    have others := ih ascending.tail
    unfold getEntry? at others ⊢
    rw [List.reverse_cons, List.find?_append, Option.map_or, others, List.find?_cons]
    cases order : compare key old.1 with
    | eq =>
      have fresh : rest.find? (fun entry => compare key entry.1 == .eq) = none := by
        apply List.find?_eq_none.mpr
        intro entry member
        obtain rfl : key = old.1 := Std.LawfulEqOrd.eq_of_compare order
        have above := ascending.head_lt (List.mem_map_of_mem member)
        simp [above]
      simp [fresh, order]
    | lt => simp [order]
    | gt => simp [order]

theorem getEntry?_eq_lookup [BEq α] [LawfulBEq α] [Std.TransOrd α] [Std.LawfulEqOrd α] (key : α)
    (entries : List (α × β)) : getEntry? key entries = entries.lookup key := by
  induction entries with
  | nil => rfl
  | cons entry rest ih =>
    rw [ getEntry?, List.find?_cons, List.lookup_cons]
    by_cases same : key = entry.1
    · subst same
      simp
    · have differ : compare key entry.1 ≠ .eq := mt Std.LawfulEqOrd.eq_of_compare same
      rw [beq_eq_false_iff_ne.mpr differ, beq_eq_false_iff_ne.mpr same]
      exact ih

theorem putEntry_of_below (key : α) (value : β) {entries : List (α × β)}
    (below : ∀ k ∈ entries.map Prod.fst, compare key k = .lt) :
    putEntry key value entries = (key, value) :: entries := by
  cases entries with
  | nil => rfl
  | cons old rest =>
    have order : compare key old.1 = .lt := below old.1 List.mem_cons_self
    simp only [putEntry, order]

theorem filter_putEntry_of_not [Std.LawfulEqOrd α] {p : α → Bool} {key : α} (h : ¬p key = true)
    (value : β) (entries : List (α × β)) :
    (putEntry key value entries).filter (fun entry => p entry.1) =
      entries.filter fun entry => p entry.1 := by
  induction entries with
  | nil => rw [putEntry, List.filter_cons, if_neg h]
  | cons old rest ih =>
    obtain ⟨k, v⟩ := old
    simp only [putEntry]
    cases order : compare key k with
    | lt => rw [List.filter_cons, if_neg h]
    | eq =>
      obtain rfl : key = k := Std.LawfulEqOrd.eq_of_compare order
      rw [List.filter_cons, List.filter_cons, if_neg h, if_neg h]
    | gt => rw [List.filter_cons, List.filter_cons, ih]

theorem perm_putEntry [Std.LawfulEqOrd α] {key : α} {entries : List (α × β)}
    (fresh : key ∉ entries.map Prod.fst) (value : β) :
    (putEntry key value entries).Perm ((key, value) :: entries) := by
  induction entries with
  | nil => exact .refl _
  | cons entry rest ih =>
    obtain ⟨notFirst, fresh⟩ := not_or.mp (mt List.mem_cons.mpr fresh)
    rw [putEntry]
    split
    · exact .refl _
    · rename_i equal
      exact absurd (Std.LawfulEqOrd.eq_of_compare equal) notFirst
    · exact ((ih fresh).cons entry).trans (.swap _ _ _)

section Put

variable [Std.TransOrd α]

theorem putEntry_of_above (key : α) (value : β) {entries : List (α × β)}
    (above : ∀ k ∈ entries.map Prod.fst, compare k key = .lt) :
    putEntry key value entries = entries ++ [(key, value)] := by
  induction entries with
  | nil => rfl
  | cons old rest ih =>
    obtain ⟨k, v⟩ := old
    have order : compare key k = .gt := Std.OrientedCmp.gt_of_lt (above k (by simp))
    simp only [putEntry, order, List.cons_append]
    rw [ih fun other member => above other (List.mem_cons_of_mem _ member)]

variable [Std.LawfulEqOrd α]

theorem filter_putEntry_of_pos {p : α → Bool} {key : α} (h : p key = true) (value : β)
    {entries : List (α × β)} (ascending : Ascending (entries.map Prod.fst)) :
    (putEntry key value entries).filter (fun entry => p entry.1) =
      putEntry key value (entries.filter fun entry => p entry.1) := by
  induction entries with
  | nil => rw [putEntry, List.filter_cons, if_pos h, List.filter_nil, putEntry]
  | cons old rest ih =>
    obtain ⟨k, v⟩ := old
    simp only [putEntry]
    cases order : compare key k with
    | lt =>
      rw [List.filter_cons, if_pos h]
      symm
      apply putEntry_of_below
      intro other member
      have among : other ∈ ((k, v) :: rest).map Prod.fst :=
        (List.filter_sublist.map Prod.fst).subset member
      rcases List.mem_cons.mp among with rfl | among
      · exact order
      · exact Std.TransCmp.lt_trans order (ascending.head_lt among)
    | eq =>
      obtain rfl : key = k := Std.LawfulEqOrd.eq_of_compare order
      simp only [List.filter_cons, h, if_true, putEntry, order]
    | gt =>
      have others := ih ascending.tail
      rw [List.filter_cons, List.filter_cons, others]
      by_cases kept : p k = true
      · simp only [kept, if_true, putEntry, order]
      · simp only [kept, Bool.false_eq_true, if_false]

/-- After putting an entry it is the only one of its key, and the others are as they were. -/
theorem mem_putEntry_iff {key k : α} {value v : β} {entries : List (α × β)}
    (ascending : Ascending (entries.map Prod.fst)) :
    (k, v) ∈ putEntry key value entries ↔
      k = key ∧ v = value ∨ k ≠ key ∧ (k, v) ∈ entries := by
  induction entries with
  | nil => simp [putEntry]
  | cons old rest ih =>
    obtain ⟨k', v'⟩ := old
    have above (w : β) (member : (k, w) ∈ rest) : compare k' k = .lt :=
      ascending.head_lt (List.mem_map_of_mem member)
    simp only [putEntry]
    cases order : compare key k' with
    | lt =>
      have fresh : (k, v) ∈ (k', v') :: rest → k ≠ key := by
        rintro member rfl
        rcases List.mem_cons.mp member with equal | member
        · cases equal
          simp at order
        · have := Std.TransCmp.lt_trans order (above v member)
          simp at this
      grind
    | eq =>
      obtain rfl : key = k' := Std.LawfulEqOrd.eq_of_compare order
      have fresh : (k, v) ∈ rest → k ≠ key := by
        rintro member rfl
        have := above v member
        simp at this
      grind
    | gt =>
      have differ : key ≠ k' := by
        rintro rfl
        simp at order
      have := ih ascending.tail
      grind

end Put

namespace SortedMap

@[simp]
theorem entries_empty : (empty : SortedMap α β).entries = [] := rfl

@[simp]
theorem entries_put [Std.TransOrd α] (map : SortedMap α β) (key : α) (value : β) :
    (map.put key value).entries = putEntry key value map.entries := rfl

theorem nodup_keys [Std.LawfulEqOrd α] (map : SortedMap α β) : map.keys.Nodup := by
  apply List.Pairwise.imp _ map.ascending
  rintro key _ below rfl
  simp at below

theorem size_eq_length_dedup [Std.LawfulEqOrd α] [DecidableEq α] {map : SortedMap α β}
    {others : List α} (same : ∀ key, key ∈ map.keys ↔ key ∈ others) :
    map.size = others.dedup.length := by
  have permuted : map.keys.Perm others.dedup := by
    rw [List.perm_ext_iff_of_nodup map.nodup_keys others.nodup_dedup]
    intro key
    rw [same, List.mem_dedup]
  have counted : map.size = map.keys.length := (List.length_map _).symm
  rw [counted, permuted.length_eq]

def putAll [Std.TransOrd α] (map : SortedMap α β) (entries : List (α × β)) : SortedMap α β :=
  entries.foldl (fun map entry => map.put entry.1 entry.2) map

theorem putAll_cons [Std.TransOrd α] (map : SortedMap α β) (entry : α × β)
    (entries : List (α × β)) :
    map.putAll (entry :: entries) = (map.put entry.1 entry.2).putAll entries := rfl

theorem forall_mem_putAll [Std.TransOrd α] {P : β → Prop} {map : SortedMap α β}
    {entries : List (α × β)} (old : ∀ entry ∈ map.entries, P entry.2)
    (new : ∀ entry ∈ entries, P entry.2) :
    ∀ entry ∈ (map.putAll entries).entries, P entry.2 := by
  induction entries generalizing map with
  | nil => exact old
  | cons first rest ih =>
    rw [List.forall_mem_cons] at new
    apply ih _ new.2
    intro entry member
    rcases mem_putEntry member with same | member
    · rw [same]
      exact new.1
    · exact old entry member

variable [Std.TransOrd α] [Std.LawfulEqOrd α]

/-- A map is determined by what is found in it. -/
theorem ext_get? {a b : SortedMap α β} (h : ∀ key, a.get? key = b.get? key) : a = b := by
  let below (entry other : α × β) : Prop := compare entry.1 other.1 = .lt
  have irrefl : Std.Irrefl below := ⟨fun entry => by simp [below]⟩
  have antisymm : Std.Antisymm below := by
    constructor
    intro entry other order order'
    exact absurd (Std.TransCmp.lt_trans order order') (irrefl.irrefl entry)
  have entries : a.entries = b.entries := by
    apply List.Pairwise.eq_of_mem_iff (r := below) (List.pairwise_map.mp a.ascending)
      (List.pairwise_map.mp b.ascending)
    rintro ⟨key, value⟩
    rw [← getEntry?_eq_some_iff a.ascending, ← getEntry?_eq_some_iff b.ascending]
    exact Eq.congr_left (h key)
  cases a
  cases b
  congr

theorem get?_put (map : SortedMap α β) (key k : α) (value : β) :
    (map.put key value).get? k = ( getEntry? k [(key, value)]).or (map.get? k) := by
  apply Option.ext
  intro v
  have put : (map.put key value).get? k = some v ↔
      k = key ∧ v = value ∨ k ≠ key ∧ map.get? k = some v := by
    rw [get?, getEntry?_eq_some_iff (ascending _), entries_put, mem_putEntry_iff map.ascending,
      get?, getEntry?_eq_some_iff map.ascending]
  rw [put, getEntry?]
  by_cases same : k = key
  · simp [same, eq_comm]
  · simp [same]

/-- Of the entries that are put the last one of a key is found. -/
theorem get?_putAll (map : SortedMap α β) (entries : List (α × β)) (key : α) :
    (map.putAll entries).get? key = ( getEntry? key entries.reverse).or (map.get? key) := by
  induction entries generalizing map with
  | nil => rfl
  | cons entry entries ih =>
    rw [putAll_cons, ih, get?_put, List.reverse_cons, ← Option.or_assoc, getEntry?, getEntry?,
      getEntry?, List.find?_append, Option.map_or]

theorem get?_putAll_entries (map other : SortedMap α β) (key : α) :
    (map.putAll other.entries).get? key = (other.get? key).or (map.get? key) := by
  rw [get?_putAll, getEntry?_reverse other.ascending]
  rfl

theorem get?_putAll_empty [BEq α] [LawfulBEq α] (entries : List (α × β)) (key : α) :
    (empty.putAll entries).get? key = entries.reverse.lookup key := by
  have nothing : (empty : SortedMap α β).get? key = none := rfl
  rw [get?_putAll, nothing, Option.or_none, getEntry?_eq_lookup]

theorem putAll_putAll (map : SortedMap α β) (entries : List (α × β)) :
    (map.putAll entries).putAll entries = map.putAll entries := by
  apply ext_get?
  intro key
  rw [get?_putAll, get?_putAll, ← Option.or_assoc, Option.or_self]

/-! ### Keys -/

theorem mem_keys_iff {map : SortedMap α β} {key : α} :
    key ∈ map.keys ↔ (map.get? key).isSome = true := by
  rw [Option.isSome_iff_exists]
  simp only [get?, getEntry?_eq_some_iff map.ascending, keys, List.mem_map, Prod.exists,
    exists_and_right, exists_eq_right]

theorem mem_keys_putAll {map : SortedMap α β} {entries : List (α × β)} {key : α} :
    key ∈ (map.putAll entries).keys ↔ key ∈ map.keys ∨ key ∈ entries.map Prod.fst := by
  have found : ( getEntry? key entries.reverse).isSome = true ↔ key ∈ entries.map Prod.fst := by
    unfold getEntry?
    rw [Option.isSome_map, List.find?_isSome]
    simp
  rw [mem_keys_iff, mem_keys_iff, get?_putAll, Option.isSome_or, Bool.or_eq_true, or_comm, found]

theorem mem_keys_putAll_empty {entries : List (α × β)} {key : α} :
    key ∈ (empty.putAll entries).keys ↔ key ∈ entries.map Prod.fst := by
  have nothing : key ∉ (empty : SortedMap α β).keys := List.not_mem_nil
  rw [mem_keys_putAll, or_iff_right nothing]

end SortedMap

end NaturalKey
