import NaturalKey.Binary64
import NaturalKey.SortedMap

/-!
JSON values. A value is canonical when the members of each of its objects stand in ascending order
of their names, which is also the order of the names' UTF-8 bytes; canonical values are equal when
they mean the same. What is read from a text is canonical, and `Json.Object` holds the members of a
canonical object.
-/

set_option autoImplicit false

namespace NaturalKey

section

-- The power in the bound is the core library's, whatever else is imported.
local instance (priority := high) corePower : Pow Int Nat := instPowNat

/-- A number is an integer that 64 bits hold, signed or unsigned, or else a double. -/
inductive Json.Number where
  | integer (value : Int) (range : -2 ^ (63 : Nat) ≤ value ∧ value < 2 ^ (64 : Nat))
  | double (value : Binary64)
deriving DecidableEq, Repr

end

inductive Json where
  | null
  | bool (value : Bool)
  | number (value : Json.Number)
  | string (value : String)
  | array (items : List Json)
  | object (members : List (String × Json))
deriving Repr

namespace Json

instance : Inhabited Json := ⟨.null⟩

mutual

/-- The members of all objects in the value, at any depth, stand in ascending order. -/
def Canonical : Json → Prop
  | .array items => AllCanonical items
  | .object members => Ascending (members.map Prod.fst) ∧ AllMembersCanonical members
  | _ => True

def AllCanonical : List Json → Prop
  | [] => True
  | item :: rest => Canonical item ∧ AllCanonical rest

def AllMembersCanonical : List (String × Json) → Prop
  | [] => True
  | (_, value) :: rest => Canonical value ∧ AllMembersCanonical rest

end

mutual

/-- How deeply arrays and objects are nested in the value. -/
def depth : Json → Nat
  | .array items => depthOfAll items + 1
  | .object members => depthOfMembers members + 1
  | _ => 0

def depthOfAll : List Json → Nat
  | [] => 0
  | item :: rest => max (depth item) (depthOfAll rest)

def depthOfMembers : List (String × Json) → Nat
  | [] => 0
  | (_, value) :: rest => max (depth value) (depthOfMembers rest)

end

theorem allCanonical_iff {items : List Json} :
    AllCanonical items ↔ ∀ item ∈ items, item.Canonical := by
  induction items with
  | nil => simp [AllCanonical]
  | cons item rest ih => simp [AllCanonical, ih]

theorem allMembersCanonical_iff {members : List (String × Json)} :
    AllMembersCanonical members ↔ ∀ entry ∈ members, entry.2.Canonical := by
  induction members with
  | nil => simp [AllMembersCanonical]
  | cons entry rest ih => simp [AllMembersCanonical, ih]

structure Value where
  json : Json
  canonical : json.Canonical

namespace Value

def null : Value := ⟨.null, trivial⟩

def bool (value : Bool) : Value := ⟨.bool value, trivial⟩

def number (value : Number) : Value := ⟨.number value, trivial⟩

def string (value : String) : Value := ⟨.string value, trivial⟩

def array (items : List Value) : Value where
  json := .array (items.map json)
  canonical := allCanonical_iff.mpr <| by
    simp only [List.mem_map]
    rintro _ ⟨item, -, rfl⟩
    exact item.canonical

end Value

structure Object where
  members : List (String × Json)
  canonical : (Json.object members).Canonical

namespace Object

def empty : Object := ⟨[], List.Pairwise.nil, trivial⟩

instance : Inhabited Object := ⟨empty⟩

def put (object : Object) (name : String) (value : Value) : Object where
  members := putEntry name value.json object.members
  canonical := ⟨ascending_putEntry name value.json object.canonical.1,
    allMembersCanonical_iff.mpr fun _ member =>
      match mem_putEntry member with
      | .inl equal => equal ▸ value.canonical
      | .inr old => allMembersCanonical_iff.mp object.canonical.2 _ old⟩

def get? (object : Object) (name : String) : Option Json :=
  getEntry? name object.members

def toJson (object : Object) : Json :=
  .object object.members

def toValue (object : Object) : Value :=
  ⟨object.toJson, object.canonical⟩

end Object

def Value.object? (value : Value) : Option Object :=
  match value with
  | ⟨.object members, canonical⟩ => some ⟨members, canonical⟩
  | _ => none

mutual

/-- The canonical value that means the same, if no object repeats a name; of members that share a
name the last one stays. -/
def canonicalize : Json → Value
  | .null => .null
  | .bool value => .bool value
  | .number value => .number value
  | .string value => .string value
  | .array items => .array (canonicalizeAll items)
  | .object members => (Object.empty.putAll members).toValue

def canonicalizeAll : List Json → List Value
  | [] => []
  | item :: rest => canonicalize item :: canonicalizeAll rest

def Object.putAll (object : Object) : List (String × Json) → Object
  | [] => object
  | (name, value) :: rest => (object.put name (canonicalize value)).putAll rest

end

end Json

end NaturalKey
