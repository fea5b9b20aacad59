import Mathlib.Data.List.Perm.Basic
import NaturalKey.Proofs.Json.Spelled
import NaturalKey.Proofs.Json.Unambiguous

/-!
Values whose numbers are integers of any size. They are what a text means to those who wrote it;
only if 64 bits hold each of the integers is there a value that is held as the same. A text that is
written never stands for any other one.
-/

set_option autoImplicit false

namespace NaturalKey.Json

/-- A value with integers in place of numbers. -/
inductive Exact where
  | null
  | bool (value : Bool)
  | integer (value : Int)
  | string (value : String)
  | array (items : List Exact)
  | object (members : List (String × Exact))

namespace Exact

/-- The texts that stand for the value. An integer is written by its digits, a string may be spelled
in any way, and the members of an object may stand in any order. -/
inductive Denotes : Exact → List UInt8 → Prop
  | null : Denotes .null [0x6E, 0x75, 0x6C, 0x6C]
  | yes : Denotes (.bool true) [0x74, 0x72, 0x75, 0x65]
  | no : Denotes (.bool false) [0x66, 0x61, 0x6C, 0x73, 0x65]
  | integer {value : Int} : Denotes (.integer value) (Utf8.encode (integerText value))
  | string {value : String} {letters : List UInt8} : SpellsText value.toList letters →
      Denotes (.string value) (0x22 :: (letters ++ [0x22]))
  | array {items : List (Exact × List UInt8)} {bytes : List UInt8} :
      (∀ item ∈ items, Denotes item.1 item.2) → ItemsOf (·.2 = ·) true items bytes →
      Denotes (.array (items.map Prod.fst)) (0x5B :: bytes)
  | object {members : List (String × Exact)} {entries : List (String × Exact × List UInt8)}
      {bytes : List UInt8} : (∀ entry ∈ entries, Denotes entry.2.1 entry.2.2) →
      (entries.map fun entry => (entry.1, entry.2.1)).Perm members →
      MembersOf SpellsName (·.2 = ·) true entries bytes → Denotes (.object members) (0x7B :: bytes)

section

-- The power is the core library's, as in the bound of a number.
local instance (priority := high) corePower : Pow Int Nat := instPowNat

/-- 64 bits hold the integer, signed or unsigned. -/
def InRange (value : Int) : Prop :=
  -2 ^ (63 : Nat) ≤ value ∧ value < 2 ^ (64 : Nat)

end

instance (value : Int) : Decidable (InRange value) :=
  inferInstanceAs (Decidable (_ ∧ _))

inductive Fits : Exact → Prop
  | null : Fits .null
  | bool {value : Bool} : Fits (.bool value)
  | integer {value : Int} : InRange value → Fits (.integer value)
  | string {value : String} : Fits (.string value)
  | array {items : List Exact} : (∀ item ∈ items, Fits item) → Fits (.array items)
  | object {members : List (String × Exact)} : (∀ member ∈ members, Fits member.2) →
      Fits (.object members)

inductive Distinct : Exact → Prop
  | null : Distinct .null
  | bool {value : Bool} : Distinct (.bool value)
  | integer {value : Int} : Distinct (.integer value)
  | string {value : String} : Distinct (.string value)
  | array {items : List Exact} : (∀ item ∈ items, Distinct item) → Distinct (.array items)
  | object {members : List (String × Exact)} : (members.map Prod.fst).Nodup →
      (∀ member ∈ members, Distinct member.2) → Distinct (.object members)

inductive Within : Nat → Exact → Prop
  | null {levels : Nat} : Within levels .null
  | bool {levels : Nat} {value : Bool} : Within levels (.bool value)
  | integer {levels : Nat} {value : Int} : Within levels (.integer value)
  | string {levels : Nat} {value : String} : Within levels (.string value)
  | array {levels : Nat} {items : List Exact} : (∀ item ∈ items, Within levels item) →
      Within (levels + 1) (.array items)
  | object {levels : Nat} {members : List (String × Exact)} :
      (∀ member ∈ members, Within levels member.2) → Within (levels + 1) (.object members)

/-- The value is held as this one, but for the order of the members. -/
inductive HeldAs : Exact → Json → Prop
  | null : HeldAs .null .null
  | bool {value : Bool} : HeldAs (.bool value) (.bool value)
  | integer {value : Int} {range} : HeldAs (.integer value) (.number (.integer value range))
  | string {value : String} : HeldAs (.string value) (.string value)
  | array {items : List (Exact × Json)} : (∀ item ∈ items, HeldAs item.1 item.2) →
      HeldAs (.array (items.map Prod.fst)) (.array (items.map Prod.snd))
  | object {members : List (String × Exact)} {entries : List (String × Exact × Json)} :
      (∀ entry ∈ entries, HeldAs entry.2.1 entry.2.2) →
      (entries.map fun entry => (entry.1, entry.2.1)).Perm members →
      HeldAs (.object members) (.object (entries.map fun entry => (entry.1, entry.2.2)))

variable {exact : Exact} {json : Json} {text : List UInt8}

section Map

variable {ι : Type} {f : ι → Exact} {bytes : List UInt8}

theorem Denotes.array_map {items : List ι} {g : ι → List UInt8}
    (each : ∀ item ∈ items, Denotes (f item) (g item))
    (written : ItemsOf (g · = ·) true items bytes) :
    Denotes (.array (items.map f)) (0x5B :: bytes) := by
  have array := @Denotes.array (items.map fun item => (f item, g item)) bytes
    (List.forall_mem_map.mpr each) (itemsOf_map_iff.mpr written)
  rwa [List.map_map] at array

theorem Denotes.object_map {members : List (String × Exact)} {entries : List (String × ι)}
    {g : ι → List UInt8} (each : ∀ entry ∈ entries, Denotes (f entry.2) (g entry.2))
    (perm : (entries.map fun entry => (entry.1, f entry.2)).Perm members)
    (written : MembersOf SpellsName (g · = ·) true entries bytes) :
    Denotes (.object members) (0x7B :: bytes) := by
  have moved : MembersOf SpellsName (·.2 = ·) true
      (entries.map fun entry => (entry.1, f entry.2, g entry.2)) bytes :=
    (membersOf_map_iff (f := id) (g := fun value => (f value, g value))).mpr written
  refine .object (List.forall_mem_map.mpr each) ?_ moved
  rwa [List.map_map]

theorem HeldAs.array_map {items : List ι} {g : ι → Json}
    (each : ∀ item ∈ items, HeldAs (f item) (g item)) :
    HeldAs (.array (items.map f)) (.array (items.map g)) := by
  have array := @HeldAs.array (items.map fun item => (f item, g item))
    (List.forall_mem_map.mpr each)
  rwa [List.map_map, List.map_map] at array

theorem HeldAs.object_map {members : List (String × Exact)} {entries : List (String × ι)}
    {g : ι → Json} (each : ∀ entry ∈ entries, HeldAs (f entry.2) (g entry.2))
    (perm : (entries.map fun entry => (entry.1, f entry.2)).Perm members) :
    HeldAs (.object members) (.object (entries.map fun entry => (entry.1, g entry.2))) := by
  have object := @HeldAs.object members (entries.map fun entry => (entry.1, f entry.2, g entry.2))
    (List.forall_mem_map.mpr each) (by rwa [List.map_map])
  rwa [List.map_map] at object

end Map

/-! ### What is written -/

theorem Denotes.valueText (h : Denotes exact text) : ValueText text := by
  induction h with
  | null => exact .null
  | yes => exact .yes
  | no => exact .no
  | integer => exact .number (numberText_integerText _)
  | string spelled => exact .string spelled.lettersText
  | array _ written ih =>
    apply written.valueText
    rintro item among _ rfl
    exact ih item among
  | object _ _ written ih =>
    apply written.valueText
    rintro entry among _ rfl
    exact ih entry among

/-! ### What it is held as -/

theorem digitBytes_toDigits_inj {m n : Nat}
    (h : digitBytes (Nat.toDigits 10 m) = digitBytes (Nat.toDigits 10 n)) : m = n := by
  have take (k : Nat) (le : k ≤ m + n) :
      (takeDigits (m + n + 1) ⟨0, 0, digitBytes (Nat.toDigits 10 k) ++ []⟩).value = k := by
    have value := Nat.ofDigitChars_ten_toDigits (n := k)
    rw [takeDigits_digitBytes (wholePart_toDigits k).allDigits rfl 0 0 (by omega)]
    exact value
  have same := take m (by omega)
  rw [h, take n (by omega)] at same
  exact same.symm

theorem byte_of_mem_integerText {value : Int} {b : UInt8}
    (h : b ∈ Utf8.encode (integerText value)) :
    b = 0x2D ∨ isDigit b = true := by
  rw [encode_integerText] at h
  rcases List.mem_append.mp h with sign | digit
  · left
    cases negative : decide (value < 0) with
    | true =>
      rw [negative] at sign
      exact List.mem_singleton.mp sign
    | false =>
      rw [negative] at sign
      cases sign
  · exact .inr (isDigit_of_mem_digitBytes (wholePart_toDigits _).allDigits b digit)

theorem signBytes_append_inj {negative negative' : Bool} {m n : Nat}
    (h : signBytes negative ++ digitBytes (Nat.toDigits 10 m) =
      signBytes negative' ++ digitBytes (Nat.toDigits 10 n)) : negative = negative' ∧ m = n := by
  have unsigned (k : Nat) (more : List UInt8) : digitBytes (Nat.toDigits 10 k) ≠ 0x2D :: more := by
    intro same
    have first := startsWithDigit_digitBytes (wholePart_toDigits k).nonempty
      (wholePart_toDigits k).allDigits []
    rw [List.append_nil, same] at first
    cases first
  cases negative with
  | true =>
    cases negative' with
    | true => exact ⟨rfl, digitBytes_toDigits_inj (List.cons.inj h).2⟩
    | false => exact absurd h.symm (unsigned n _)
  | false =>
    cases negative' with
    | true => exact absurd h (unsigned m _)
    | false => exact ⟨rfl, digitBytes_toDigits_inj h⟩

/-- A number without a fraction and an exponent is an integer that 64 bits hold. -/
theorem exists_range_of_spellsNumber {value : Int} {number : Number}
    (h : SpellsNumber number (Utf8.encode (integerText value))) :
    ∃ range, number = .integer value range := by
  generalize written : Utf8.encode (integerText value) = text at h
  cases h with
  | @integer negative n _ fits =>
    rw [encode_integerText] at written
    obtain ⟨other, range, rfl, rfl, rfl⟩ := Number.exists_integer_of_ofDigits? fits
    obtain ⟨sign, digits⟩ := signBytes_append_inj written
    have signs : value < 0 ↔ other < 0 := decide_eq_decide.mp sign
    obtain rfl : value = other := by omega
    exact ⟨range, rfl⟩
  | @double negative whole fraction exponent tail x _ _ spelled nonempty _ _ =>
    exfalso
    have bytes {b : UInt8} (among : b ∈ fractionBytes fraction ++ tail) :
        b = 0x2D ∨ isDigit b = true := by
      apply @byte_of_mem_integerText value
      rw [written]
      exact List.mem_append_right _ (List.mem_append_right _ among)
    rcases nonempty with point | letter
    · have point : (0x2E : UInt8) ∈ fractionBytes fraction := by
        rw [fractionBytes, if_neg point]
        exact List.mem_cons_self
      exact absurd (bytes (List.mem_append_left _ point)) (by decide)
    · cases spelled with
      | none => exact letter rfl
      | @some b _ _ _ _ isLetter _ _ _ =>
        have notDigit := (isDigit_eq_false_of_isExponentLetter isLetter).1
        rcases bytes (List.mem_append_right _ List.mem_cons_self) with rfl | digit
        · exact absurd isLetter (by decide)
        · rw [notDigit] at digit
          cases digit

theorem exists_number_of_spells (h : Spells json text) (numeral : NumberText text) :
    ∃ number, json = .number number ∧ SpellsNumber number text := by
  have notHead {b : UInt8} {more : List UInt8} (noMinus : b ≠ 0x2D) (noDigit : isDigit b = false)
      (same : text = b :: more) : False :=
    numeral.head?_ne noMinus noDigit (by rw [same]; rfl)
  cases h with
  | number spelled => exact ⟨_, rfl, spelled⟩
  | null => exact (notHead (by decide) (by decide) rfl).elim
  | yes => exact (notHead (by decide) (by decide) rfl).elim
  | no => exact (notHead (by decide) (by decide) rfl).elim
  | string _ => exact (notHead (by decide) (by decide) rfl).elim
  | array _ => exact (notHead (by decide) (by decide) rfl).elim
  | object _ => exact (notHead (by decide) (by decide) rfl).elim

/-- A text that spells a value can be read in no other way, so its integers are in range. -/
theorem Denotes.fits (h : Denotes exact text) (spelled : Spells json text) : Fits exact := by
  induction h generalizing json with
  | null => exact .null
  | yes => exact .bool
  | no => exact .bool
  | @integer value =>
    obtain ⟨number, -, digits⟩ := exists_number_of_spells spelled (numberText_integerText value)
    obtain ⟨range, -⟩ := exists_range_of_spellsNumber digits
    exact .integer range
  | string => exact .string
  | @array items bytes each written ih =>
    cases spelled with
    | number spelled => exact absurd rfl (spelled.numberText.head?_ne (by decide) (by decide))
    | array spelled =>
      apply Fits.array
      rintro _ listed
      obtain ⟨item, among, rfl⟩ := List.mem_map.mp listed
      obtain ⟨_, rfl, other, -, spelled⟩ := written.exists_same spelled.itemsOf
        (by rintro item among _ rfl; exact (each item among).valueText)
        (fun _ _ _ spelled => spelled.valueText) item among
      exact ih item among spelled
  | @object members entries bytes each perm written ih =>
    cases spelled with
    | number spelled => exact absurd rfl (spelled.numberText.head?_ne (by decide) (by decide))
    | object spelled =>
      apply Fits.object
      rintro _ listed
      obtain ⟨entry, among, rfl⟩ := List.mem_map.mp (perm.mem_iff.mpr listed)
      have same : bytes ++ [] = bytes ++ [] := rfl
      obtain ⟨_, rfl, other, -, -, spelled⟩ := written.exists_same spelled.membersOf same
        (by rintro entry among _ rfl; exact (each entry among).valueText)
        (fun _ _ _ spelled => spelled.valueText) entry among
      exact ih entry among spelled

theorem Denotes.exists_spells (h : Denotes exact text) (fits : Fits exact) :
    ∃ json, Spells json text ∧ HeldAs exact json := by
  induction h with
  | null => exact ⟨_, .null, .null⟩
  | yes => exact ⟨_, .yes, .bool⟩
  | no => exact ⟨_, .no, .bool⟩
  | integer =>
    cases fits with
    | integer range => exact ⟨_, .number (spellsNumber_integerText _ range), .integer⟩
  | string spelled => exact ⟨_, .string spelled, .string⟩
  | @array items bytes _ written ih =>
    cases fits with
    | array fits =>
      have each := fun item among => ih item among (fits _ (List.mem_map_of_mem among))
      choose! json spelled held using each
      refine ⟨.array (items.map json), .array (ItemsOf.spellsItems (itemsOf_map_iff.mpr ?_)),
        .array_map held⟩
      apply written.imp
      rintro item among _ rfl
      exact spelled item among
  | @object members entries bytes _ perm written ih =>
    cases fits with
    | object fits =>
      -- What a value is held as does not depend on its name.
      have each : ∀ value : Exact × List UInt8, (∃ name, (name, value) ∈ entries) →
          ∃ json, Spells json value.2 ∧ HeldAs value.1 json := by
        rintro value ⟨name, among⟩
        exact ih (name, value) among (fits _ (perm.mem_iff.mp (List.mem_map_of_mem among)))
      choose! json spelled held using each
      refine ⟨.object (entries.map fun entry => (entry.1, json entry.2)),
        .object (MembersOf.spellsMembers ((membersOf_map_iff (f := id)).mpr ?_)),
        .object_map (fun entry among => held entry.2 ⟨entry.1, among⟩) perm⟩
      apply written.imp fun _ _ named => named
      rintro entry among _ rfl
      exact spelled entry.2 ⟨entry.1, among⟩

/-! ### What it is written as -/

theorem eq_of_spellsNumber_integer {value : Int} {range}
    (h : SpellsNumber (.integer value range) text) : text = Utf8.encode (integerText value) := by
  cases h with
  | @integer negative n _ digits =>
    obtain ⟨_, _, same, rfl, rfl⟩ := Number.exists_integer_of_ofDigits? digits
    cases same
    exact (encode_integerText value).symm

/-- What spells a value that is held stands for it, whatever the order of the members is. -/
theorem HeldAs.denotes (h : HeldAs exact json) (spelled : Spells json text) :
    Denotes exact text := by
  induction h generalizing text with
  | null =>
    cases spelled
    exact .null
  | bool =>
    cases spelled with
    | yes => exact .yes
    | no => exact .no
  | integer =>
    cases spelled with
    | number digits =>
      rw [eq_of_spellsNumber_integer digits]
      exact .integer
  | string =>
    cases spelled with
    | string spelled => exact .string spelled
  | @array items _ ih =>
    cases spelled with
    | array spelled =>
      obtain ⟨pairs, same, each, written⟩ := (itemsOf_map_iff.mp spelled.itemsOf).exists_texts
      subst same
      rw [List.map_map]
      exact .array_map
        (fun pair among => ih pair.1 (List.mem_map_of_mem among) (each pair among)) written
  | @object members entries _ perm ih =>
    cases spelled with
    | object spelled =>
      obtain ⟨named, rfl, each, written⟩ :=
        ((membersOf_map_iff (f := id) (g := Prod.snd)).mp spelled.membersOf).exists_texts
      rw [List.map_map] at perm
      exact .object_map (f := fun value : (Exact × Json) × List UInt8 => value.1.1)
        (fun entry among => ih (entry.1, entry.2.1) (List.mem_map_of_mem among) (each entry among))
        perm written

theorem exists_map_perm {α β : Type} {f : α → β} {items : List α} {order : List β}
    (h : order.Perm (items.map f)) :
    ∃ sorted : List α, sorted.Perm items ∧ sorted.map f = order := by
  have related : List.Forall₂ (fun b a => b = f a) (items.map f) items :=
    List.forall₂_map_left_iff.mpr (List.forall₂_same.mpr fun _ _ => rfl)
  obtain ⟨sorted, related, perm⟩ := List.perm_comp_forall₂ h related
  refine ⟨sorted, perm, ?_⟩
  have same := List.forall₂_map_right_iff.mpr related
  rw [List.forall₂_eq_eq_eq] at same
  exact same.symm

theorem HeldAs.canonicalize (h : HeldAs exact json)
    (distinct : Distinct exact) : HeldAs exact json.canonicalize.json := by
  induction h with
  | null => exact .null
  | bool => exact .bool
  | integer => exact .integer
  | string => exact .string
  | @array items _ ih =>
    cases distinct with
    | array distinct =>
      rw [Json.canonicalize, canonicalizeAll_eq_map, Value.json_array, List.map_map, List.map_map]
      exact .array_map fun item among => ih item among (distinct _ (List.mem_map_of_mem among))
  | @object members entries _ perm ih =>
    cases distinct with
    | object once distinct =>
      have names : ((entries.map fun entry => (entry.1, entry.2.2)).map Prod.fst).Nodup := by
        have same := (perm.map Prod.fst).nodup_iff.mpr once
        simpa [List.map_map, Function.comp_def] using same
      have put := Object.perm_members_putAll .empty names
      rw [List.map_map] at put
      obtain ⟨sorted, moved, same⟩ := exists_map_perm put
      rw [Json.canonicalize, Object.json_toValue, ← same]
      refine .object_map (g := fun value => value.2.canonicalize.json) (fun entry among => ?_)
        ((moved.map _).trans perm)
      have among := moved.mem_iff.mp among
      exact ih entry among (distinct _ (perm.mem_iff.mp (List.mem_map_of_mem among)))

theorem HeldAs.depth_le (h : HeldAs exact json) {levels : Nat} (within : Within levels exact) :
    json.depth ≤ levels := by
  induction h generalizing levels with
  | null => exact Nat.zero_le _
  | bool => exact Nat.zero_le _
  | integer => exact Nat.zero_le _
  | string => exact Nat.zero_le _
  | array _ ih =>
    cases within with
    | array within =>
      apply Nat.succ_le_succ
      exact depthOfAll_le_iff.mpr (List.forall_mem_map.mpr fun item among =>
        ih item among (within _ (List.mem_map_of_mem among)))
  | object _ perm ih =>
    cases within with
    | object within =>
      apply Nat.succ_le_succ
      exact depthOfMembers_le_iff.mpr (List.forall_mem_map.mpr fun entry among =>
        ih entry among (within _ (perm.mem_iff.mp (List.mem_map_of_mem among))))

theorem HeldAs.integral (h : HeldAs exact json) : json.Integral := by
  induction h with
  | null => trivial
  | bool => trivial
  | integer => trivial
  | string => trivial
  | array _ ih => exact allIntegral_iff.mpr (List.forall_mem_map.mpr ih)
  | object _ _ ih => exact allMembersIntegral_iff.mpr (List.forall_mem_map.mpr ih)

end Exact

end NaturalKey.Json
