import NaturalKey.Json
import NaturalKey.Proofs.SortedMap

/-!
JSON values by induction on how they are nested. A canonical value is its own canonical form, and
the depth of a value bounds the depth of what is in it.
-/

set_option autoImplicit false

namespace NaturalKey.Json

/-- What holds of a value if it holds of everything in it holds of every value. -/
theorem nestedInduction {P : Json → Prop} (null : P .null) (bool : ∀ value, P (.bool value))
    (number : ∀ value, P (.number value)) (string : ∀ value, P (.string value))
    (array : ∀ items, (∀ item ∈ items, P item) → P (.array items))
    (object : ∀ members, (∀ entry ∈ members, P entry.2) → P (.object members)) :
    ∀ json, P json
  | .null => null
  | .bool value => bool value
  | .number value => number value
  | .string value => string value
  | .array items => array items fun item _ =>
      nestedInduction null bool number string array object item
  | .object members => object members fun entry _ =>
      nestedInduction null bool number string array object entry.2
termination_by json => sizeOf json
decreasing_by
  · have := List.sizeOf_lt_of_mem ‹_›
    simp
    omega
  · obtain ⟨name, value⟩ := entry
    have := List.sizeOf_lt_of_mem ‹_›
    simp at this ⊢
    omega

theorem depthOfAll_le_iff {items : List Json} {n : Nat} :
    depthOfAll items ≤ n ↔ ∀ item ∈ items, item.depth ≤ n := by
  induction items with
  | nil => simp [depthOfAll]
  | cons item rest ih => rw [depthOfAll, Nat.max_le, ih, List.forall_mem_cons]

theorem depthOfMembers_le_iff {members : List (String × Json)} {n : Nat} :
    depthOfMembers members ≤ n ↔ ∀ entry ∈ members, entry.2.depth ≤ n := by
  induction members with
  | nil => simp [depthOfMembers]
  | cons entry rest ih => rw [depthOfMembers, Nat.max_le, ih, List.forall_mem_cons]

/-! ### Canonical values -/

theorem Object.ext_members {a b : Object} (h : a.members = b.members) : a = b := by
  cases a
  cases b
  simp_all

@[simp]
theorem Value.json_array (items : List Value) :
    (Value.array items).json = .array (items.map Value.json) := rfl

@[simp]
theorem Object.members_put (object : Object) (name : String) (value : Value) :
    (object.put name value).members = putEntry name value.json object.members := rfl

@[simp]
theorem Object.json_toValue (object : Object) : object.toValue.json = .object object.members := rfl

theorem canonicalizeAll_eq_map (items : List Json) :
    canonicalizeAll items = items.map canonicalize := by
  induction items with
  | nil => rfl
  | cons item rest ih => rw [canonicalizeAll, ih, List.map_cons]

theorem Object.members_putAll (object : Object) {members : List (String × Json)}
    (ascending : Ascending ((object.members ++ members).map Prod.fst))
    (same : ∀ entry ∈ members, (canonicalize entry.2).json = entry.2) :
    (object.putAll members).members = object.members ++ members := by
  induction members generalizing object with
  | nil => simp [Object.putAll]
  | cons entry rest ih =>
    have last :
        (object.put entry.1 (canonicalize entry.2)).members = object.members ++ [entry] := by
      rw [Object.members_put, same entry (by simp)]
      apply putEntry_of_above
      intro k member
      rw [List.map_append, Ascending, List.pairwise_append] at ascending
      exact ascending.2.2 k member entry.1 (by simp)
    rw [Object.putAll, ih, last, List.append_assoc, List.singleton_append]
    · rw [last]
      simpa using ascending
    · exact fun other member => same other (List.mem_cons_of_mem _ member)

theorem Object.perm_members_putAll (object : Object) {members : List (String × Json)}
    (once : ((object.members ++ members).map Prod.fst).Nodup) :
    (object.putAll members).members.Perm
      (object.members ++ members.map fun member => (member.1, member.2.canonicalize.json)) := by
  induction members generalizing object with
  | nil => simp [Object.putAll]
  | cons member rest ih =>
    have split : ((object.members.map Prod.fst) ++ member.1 :: rest.map Prod.fst).Nodup := by
      simpa using once
    have fresh : member.1 ∉ object.members.map Prod.fst := fun among =>
      List.disjoint_of_nodup_append split among List.mem_cons_self
    have put : (object.put member.1 member.2.canonicalize).members.Perm
        ((member.1, member.2.canonicalize.json) :: object.members) := perm_putEntry fresh _
    have keys : (((object.put member.1 member.2.canonicalize).members ++ rest).map Prod.fst).Perm
        ((object.members ++ member :: rest).map Prod.fst) := by
      have moved := (put.map Prod.fst).append_right (rest.map Prod.fst)
      simpa using moved.trans List.perm_middle.symm
    have others := ih (object.put member.1 member.2.canonicalize) (keys.nodup_iff.mpr once)
    exact others.trans ((put.append_right _).trans List.perm_middle.symm)

theorem json_canonicalize {json : Json} (h : json.Canonical) : json.canonicalize.json = json := by
  induction json using nestedInduction with
  | null => rfl
  | bool value => rfl
  | number value => rfl
  | string value => rfl
  | array items ih =>
    have items' := allCanonical_iff.mp h
    have same : items.map (Value.json ∘ canonicalize) = items.map id :=
      List.map_congr_left fun item member => ih item member (items' item member)
    rw [canonicalize, canonicalizeAll_eq_map, Value.json_array, List.map_map, same, List.map_id]
  | object members ih =>
    have members' := allMembersCanonical_iff.mp h.2
    have same := Object.members_putAll Object.empty h.1
      fun entry member => ih entry member (members' entry member)
    rw [canonicalize, Object.json_toValue, same]
    rfl

@[simp]
theorem Object.putAll_empty_members (object : Object) :
    Object.empty.putAll object.members = object := by
  apply Object.ext_members
  exact Object.members_putAll Object.empty object.canonical.1 fun entry member =>
    json_canonicalize (allMembersCanonical_iff.mp object.canonical.2 entry member)

/-! ### Numbers -/

mutual

def mapNumbers (f : Number → Number) : Json → Json
  | .number value => .number (f value)
  | .array items => .array (mapNumbersAll f items)
  | .object members => .object (mapMembersNumbers f members)
  | scalar => scalar

def mapNumbersAll (f : Number → Number) : List Json → List Json
  | [] => []
  | item :: rest => mapNumbers f item :: mapNumbersAll f rest

def mapMembersNumbers (f : Number → Number) : List (String × Json) → List (String × Json)
  | [] => []
  | (name, value) :: rest => (name, mapNumbers f value) :: mapMembersNumbers f rest

end

theorem mapNumbersAll_eq_map (f : Number → Number) (items : List Json) :
    mapNumbersAll f items = items.map (mapNumbers f) := by
  induction items with
  | nil => rfl
  | cons item rest ih => rw [mapNumbersAll, ih, List.map_cons]

theorem mapMembersNumbers_eq_map (f : Number → Number) (members : List (String × Json)) :
    mapMembersNumbers f members = members.map fun entry => (entry.1, entry.2.mapNumbers f) := by
  induction members with
  | nil => rfl
  | cons entry rest ih => rw [mapMembersNumbers, ih, List.map_cons]

theorem depth_mapNumbers (f : Number → Number) (json : Json) :
    (json.mapNumbers f).depth = json.depth := by
  induction json using nestedInduction with
  | null => rfl
  | bool value => rfl
  | number value => rfl
  | string value => rfl
  | array items ih =>
    simp only [mapNumbers, depth, mapNumbersAll_eq_map]
    congr 1
    induction items with
    | nil => rfl
    | cons item rest inner =>
      rw [List.map_cons, depthOfAll, depthOfAll, ih item (by simp),
        inner fun other member => ih other (List.mem_cons_of_mem _ member)]
  | object members ih =>
    simp only [mapNumbers, depth, mapMembersNumbers_eq_map]
    congr 1
    induction members with
    | nil => rfl
    | cons entry rest inner =>
      rw [List.map_cons, depthOfMembers, depthOfMembers, ih entry (by simp),
        inner fun other member => ih other (List.mem_cons_of_mem _ member)]

theorem canonical_mapNumbers (f : Number → Number) {json : Json} (h : json.Canonical) :
    (json.mapNumbers f).Canonical := by
  induction json using nestedInduction with
  | null => trivial
  | bool value => trivial
  | number value => trivial
  | string value => trivial
  | array items ih =>
    simp only [mapNumbers, Canonical, mapNumbersAll_eq_map, allCanonical_iff, List.forall_mem_map]
      at h ⊢
    exact fun item member => ih item member (h item member)
  | object members ih =>
    simp only [mapNumbers, Canonical, mapMembersNumbers_eq_map, allMembersCanonical_iff,
      List.forall_mem_map, List.map_map] at h ⊢
    exact ⟨h.1, fun entry member => ih entry member (h.2 entry member)⟩

def Object.mapNumbers (f : Number → Number) (object : Object) : Object where
  members := mapMembersNumbers f object.members
  canonical := canonical_mapNumbers f object.canonical

@[simp]
theorem Object.toJson_mapNumbers (f : Number → Number) (object : Object) :
    (object.mapNumbers f).toJson = object.toJson.mapNumbers f := rfl

mutual

/-- All numbers in the value, at any depth, are integers. -/
def Integral : Json → Prop
  | .number (.double _) => False
  | .array items => AllIntegral items
  | .object members => AllMembersIntegral members
  | _ => True

def AllIntegral : List Json → Prop
  | [] => True
  | item :: rest => Integral item ∧ AllIntegral rest

def AllMembersIntegral : List (String × Json) → Prop
  | [] => True
  | (_, value) :: rest => Integral value ∧ AllMembersIntegral rest

end

theorem allIntegral_iff {items : List Json} :
    AllIntegral items ↔ ∀ item ∈ items, item.Integral := by
  induction items with
  | nil => simp [AllIntegral]
  | cons item rest ih => simp [AllIntegral, ih]

theorem allMembersIntegral_iff {members : List (String × Json)} :
    AllMembersIntegral members ↔ ∀ entry ∈ members, entry.2.Integral := by
  induction members with
  | nil => simp [AllMembersIntegral]
  | cons entry rest ih => simp [AllMembersIntegral, ih]

theorem mapNumbers_of_integral {f : Number → Number}
    (same : ∀ value range, f (.integer value range) = .integer value range) {json : Json}
    (h : json.Integral) : json.mapNumbers f = json := by
  induction json using nestedInduction with
  | null => rfl
  | bool value => rfl
  | number value =>
    cases value with
    | integer value range => rw [mapNumbers, same]
    | double x => exact h.elim
  | string value => rfl
  | array items ih =>
    simp only [Integral, allIntegral_iff] at h
    have same : items.map (mapNumbers f) = items.map id :=
      List.map_congr_left fun item member => ih item member (h item member)
    rw [mapNumbers, mapNumbersAll_eq_map, same, List.map_id]
  | object members ih =>
    simp only [Integral, allMembersIntegral_iff] at h
    have same : members.map (fun entry => (entry.1, entry.2.mapNumbers f)) = members.map id :=
      List.map_congr_left fun entry member => Prod.ext rfl (ih entry member (h entry member))
    rw [mapNumbers, mapMembersNumbers_eq_map, same, List.map_id]

end NaturalKey.Json
