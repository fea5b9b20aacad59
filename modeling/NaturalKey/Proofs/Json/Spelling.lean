import NaturalKey.Proofs.Json.Number
import NaturalKey.Proofs.Json.Punctuation

/-!
The texts that stand for a JSON value: any white space may surround its tokens, and its strings may
be spelled in any way. `bytes` start with the value and end with it; what is between brackets ends
with the bracket that closes.
-/

set_option autoImplicit false

namespace NaturalKey.Json

mutual

inductive Spells : Json → List UInt8 → Prop
  | null : Spells .null [0x6E, 0x75, 0x6C, 0x6C]
  | yes : Spells (.bool true) [0x74, 0x72, 0x75, 0x65]
  | no : Spells (.bool false) [0x66, 0x61, 0x6C, 0x73, 0x65]
  | number {number : Number} {bytes : List UInt8} : SpellsNumber number bytes →
      Spells (.number number) bytes
  | string {text : String} {bytes : List UInt8} : SpellsText text.toList bytes →
      Spells (.string text) (0x22 :: (bytes ++ [0x22]))
  | array {items : List Json} {bytes : List UInt8} : SpellsItems true items bytes →
      Spells (.array items) (0x5B :: bytes)
  | object {members : List (String × Json)} {bytes : List UInt8} :
      SpellsMembers true members bytes → Spells (.object members) (0x7B :: bytes)

inductive SpellsItems : Bool → List Json → List UInt8 → Prop
  | close {first : Bool} {space : List UInt8} : Space space →
      SpellsItems first [] (space ++ [0x5D])
  | more {first : Bool} {item : Json} {items : List Json} {lead bytes others : List UInt8} :
      Lead first lead → Spells item bytes → SpellsItems false items others →
      SpellsItems first (item :: items) (lead ++ (bytes ++ others))

inductive SpellsMembers : Bool → List (String × Json) → List UInt8 → Prop
  | close {first : Bool} {space : List UInt8} : Space space →
      SpellsMembers first [] (space ++ [0x7D])
  | more {first : Bool} {name : String} {value : Json} {members : List (String × Json)}
      {lead letters before after bytes others : List UInt8} :
      Lead first lead → SpellsText name.toList letters → Space before → Space after →
      Spells value bytes → SpellsMembers false members others →
      SpellsMembers first ((name, value) :: members)
        (lead ++ 0x22 :: (letters ++ 0x22 :: (before ++ 0x3A :: (after ++ (bytes ++ others)))))

end

theorem Spells.starts {json : Json} {bytes : List UInt8} (h : Spells json bytes) :
    Starts bytes := by
  cases h with
  | null => exact ⟨_, _, rfl, by decide⟩
  | yes => exact ⟨_, _, rfl, by decide⟩
  | no => exact ⟨_, _, rfl, by decide⟩
  | number h =>
    obtain ⟨negative, numerals, rfl, first, -⟩ := h.exists_numeral
    cases negative with
    | true => exact ⟨_, _, rfl, by decide⟩
    | false =>
      cases numerals with
      | nil => simp [startsWithDigit] at first
      | cons b more => exact ⟨b, more, rfl, not_isSpace_of_isDigit first⟩
  | string _ => exact ⟨_, _, rfl, by decide⟩
  | array _ => exact ⟨_, _, rfl, by decide⟩
  | object _ => exact ⟨_, _, rfl, by decide⟩

theorem SpellsItems.itemsOf {first : Bool} {items : List Json} {bytes : List UInt8}
    (h : SpellsItems first items bytes) : ItemsOf Spells first items bytes := by
  induction items generalizing first bytes with
  | nil =>
    cases h with
    | close space => exact .close space
  | cons item items ih =>
    cases h with
    | more lead spelled others => exact .more lead spelled (ih others)

theorem ItemsOf.spellsItems {first : Bool} {items : List Json} {bytes : List UInt8}
    (h : ItemsOf Spells first items bytes) : SpellsItems first items bytes := by
  induction h with
  | close space => exact .close space
  | more lead spelled _ ih => exact .more lead spelled ih

def SpellsName (name : String) (letters : List UInt8) : Prop :=
  SpellsText name.toList letters

theorem SpellsMembers.membersOf {first : Bool} {members : List (String × Json)}
    {bytes : List UInt8} (h : SpellsMembers first members bytes) :
    MembersOf SpellsName Spells first members bytes := by
  induction members generalizing first bytes with
  | nil =>
    cases h with
    | close space => exact .close space
  | cons entry members ih =>
    cases h with
    | more lead named before after spelled others =>
      exact .more lead named before after spelled (ih others)

theorem MembersOf.spellsMembers {first : Bool} {members : List (String × Json)} {bytes : List UInt8}
    (h : MembersOf SpellsName Spells first members bytes) : SpellsMembers first members bytes := by
  induction h with
  | close space => exact .close space
  | more lead named before after spelled _ ih => exact .more lead named before after spelled ih

end NaturalKey.Json
