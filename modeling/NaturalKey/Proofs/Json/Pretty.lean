import NaturalKey.Proofs.Json.Text

/-!
The text over several lines: every item and member begins a line of its own, two spaces deeper than
the brackets around it. It stands for the value as the text on one line does, since lines and
indentation are white space that a reader passes over.
-/

set_option autoImplicit false

namespace NaturalKey.Json

variable {f : Number → Number}

def lineStart (level : Nat) : List UInt8 :=
  0x0A :: List.replicate (2 * level) 0x20

mutual

/-- The texts of a value over several lines, for a place indented by a level. -/
inductive Laid : Nat → Json → List UInt8 → Prop
  | scalar {level : Nat} {json : Json} {bytes : List UInt8} : json.depth = 0 → Spells json bytes →
      Laid level json bytes
  | noItems {level : Nat} : Laid level (.array []) [0x5B, 0x5D]
  | array {level : Nat} {items : List Json} {bytes : List UInt8} :
      LaidItems (level + 1) items bytes →
      Laid level (.array items) (0x5B :: (bytes ++ (lineStart level ++ [0x5D])))
  | noMembers {level : Nat} : Laid level (.object []) [0x7B, 0x7D]
  | object {level : Nat} {members : List (String × Json)} {bytes : List UInt8} :
      LaidMembers (level + 1) members bytes →
      Laid level (.object members) (0x7B :: (bytes ++ (lineStart level ++ [0x7D])))

inductive LaidItems : Nat → List Json → List UInt8 → Prop
  | last {level : Nat} {item : Json} {bytes : List UInt8} : Laid level item bytes →
      LaidItems level [item] (lineStart level ++ bytes)
  | more {level : Nat} {item : Json} {items : List Json} {bytes others : List UInt8} :
      Laid level item bytes → LaidItems level items others →
      LaidItems level (item :: items) (lineStart level ++ (bytes ++ 0x2C :: others))

inductive LaidMembers : Nat → List (String × Json) → List UInt8 → Prop
  | last {level : Nat} {name : String} {value : Json} {letters bytes : List UInt8} :
      SpellsName name letters → Laid level value bytes →
      LaidMembers level [(name, value)]
        (lineStart level ++ 0x22 :: (letters ++ 0x22 :: 0x3A :: 0x20 :: bytes))
  | more {level : Nat} {name : String} {value : Json} {members : List (String × Json)}
      {letters bytes others : List UInt8} : SpellsName name letters → Laid level value bytes →
      LaidMembers level members others →
      LaidMembers level ((name, value) :: members)
        (lineStart level ++ 0x22 :: (letters ++ 0x22 :: 0x3A :: 0x20 :: (bytes ++ 0x2C :: others)))

end

/-! ### Reading -/

theorem space_lineStart (level : Nat) : Space (lineStart level) := by
  intro b member
  rcases List.mem_cons.mp member with rfl | member
  · decide
  · rw [List.eq_of_mem_replicate member]
    decide

theorem space_lineBreak : Space (Utf8.encode "\n") := by
  have bytes : Utf8.encode "\n" = [0x0A] := by decide
  rw [bytes]
  exact List.forall_mem_singleton.mpr rfl

theorem lead_lineStart (level : Nat) (first : Bool) :
    Lead first ((if first then [] else [0x2C]) ++ lineStart level) := by
  cases first with
  | true => exact .first (space_lineStart level)
  | false => exact .comma space_nil (space_lineStart level)

mutual

/-- What is laid out stands for the value. -/
theorem Laid.spells {level : Nat} {json : Json} {bytes : List UInt8} :
    Laid level json bytes → Spells json bytes
  | .scalar _ spelled => spelled
  | .noItems => .array (.close space_nil)
  | .array items => .array (items.spellsItems level true)
  | .noMembers => .object (.close space_nil)
  | .object members => .object (members.spellsMembers level true)

theorem LaidItems.spellsItems {level : Nat} {items : List Json} {bytes : List UInt8} :
    LaidItems level items bytes → ∀ (outer : Nat) (first : Bool),
      SpellsItems first items
        ((if first then [] else [0x2C]) ++ (bytes ++ (lineStart outer ++ [0x5D])))
  | .last item, outer, first => by
    have spelled := SpellsItems.more (lead_lineStart level first) item.spells
      (.close (space_lineStart outer))
    simpa using spelled
  | .more item others, outer, first => by
    have spelled := SpellsItems.more (lead_lineStart level first) item.spells
      (others.spellsItems outer false)
    simpa using spelled

theorem LaidMembers.spellsMembers {level : Nat} {members : List (String × Json)}
    {bytes : List UInt8} : LaidMembers level members bytes → ∀ (outer : Nat) (first : Bool),
      SpellsMembers first members
        ((if first then [] else [0x2C]) ++ (bytes ++ (lineStart outer ++ [0x7D])))
  | .last named value, outer, first => by
    have space : Space [0x20] := List.forall_mem_singleton.mpr rfl
    have spelled := SpellsMembers.more (lead_lineStart level first) named space_nil space
      value.spells (.close (space_lineStart outer))
    simpa using spelled
  | .more named value others, outer, first => by
    have space : Space [0x20] := List.forall_mem_singleton.mpr rfl
    have spelled := SpellsMembers.more (lead_lineStart level first) named space_nil space
      value.spells (others.spellsMembers outer false)
    simpa using spelled

end

/-! ### Writing -/

theorem encode_newLine (level : Nat) : Utf8.encode (newLine level) = lineStart level := by
  have lineBreak : Utf8.encode "\n" = [0x0A] := by decide
  have space : Utf8.encodeChar ' ' = [0x20] := by decide
  rw [newLine, Utf8.encode_append, lineBreak, Utf8.encode_ofList, lineStart]
  generalize 2 * level = count
  induction count with
  | zero => rfl
  | succ count ih =>
    rw [List.replicate_succ, List.flatMap_cons, space]
    simpa [List.replicate_succ] using ih

theorem encode_comma : Utf8.encode "," = [0x2C] := by decide

theorem laidItems_prettyItems {level : Nat} {item : Json} {rest : List Json}
    (h : ∀ other ∈ item :: rest,
      Laid level (other.mapNumbers f) (Utf8.encode (other.pretty level))) :
    LaidItems level (mapNumbersAll f (item :: rest))
      (lineStart level ++
        (Utf8.encode (item.pretty level) ++ Utf8.encode (prettyItems level rest))) := by
  obtain ⟨first, others⟩ := List.forall_mem_cons.mp h
  induction rest generalizing item with
  | nil => simpa [prettyItems, mapNumbersAll] using LaidItems.last first
  | cons next rest ih =>
    have laid := LaidItems.more first (ih others (others next List.mem_cons_self)
      (List.forall_mem_cons.mp others).2)
    simpa [prettyItems, mapNumbersAll, encode_comma, encode_newLine] using laid

theorem encode_name_colon (name : String) (text : String) :
    Utf8.encode (stringText name ++ ": " ++ text) =
      0x22 :: ((name.toList.flatMap escape).flatMap Utf8.encodeChar ++
        0x22 :: 0x3A :: 0x20 :: Utf8.encode text) := by
  have colon : Utf8.encode ": " = [0x3A, 0x20] := by decide
  rw [Utf8.encode_append, Utf8.encode_append, encode_stringText, colon]
  simp

theorem laidMembers_prettyMembers {level : Nat} {name : String} {value : Json}
    {rest : List (String × Json)}
    (h : ∀ entry ∈ (name, value) :: rest,
      Laid level (entry.2.mapNumbers f) (Utf8.encode (entry.2.pretty level))) :
    LaidMembers level (mapMembersNumbers f ((name, value) :: rest))
      (lineStart level ++ (Utf8.encode (stringText name ++ ": " ++ value.pretty level) ++
        Utf8.encode (prettyMembers level rest))) := by
  obtain ⟨first, others⟩ := List.forall_mem_cons.mp h
  have named (name : String) : SpellsName name _ := spellsText_escape name.toList
  induction rest generalizing name value with
  | nil =>
    rw [encode_name_colon]
    simpa [prettyMembers, mapMembersNumbers] using LaidMembers.last (named name) first
  | cons next rest ih =>
    have laid := LaidMembers.more (named name) first (ih others
      (others next List.mem_cons_self) (List.forall_mem_cons.mp others).2)
    rw [encode_name_colon]
    simpa [prettyMembers, mapMembersNumbers, encode_comma, encode_newLine] using laid

/-- What is written over several lines is laid out so, its numbers being what their texts spell. -/
theorem laid_pretty
    (numbers : ∀ number : Number, SpellsNumber (f number) (Utf8.encode number.text))
    (json : Json) (level : Nat) :
    Laid level (json.mapNumbers f) (Utf8.encode (json.pretty level)) := by
  induction json using nestedInduction generalizing level with
  | null => exact .scalar rfl (spells_compact numbers .null)
  | bool value => exact .scalar rfl (spells_compact numbers (.bool value))
  | number value => exact .scalar rfl (spells_compact numbers (.number value))
  | string value => exact .scalar rfl (spells_compact numbers (.string value))
  | array items ih =>
    have brackets : Utf8.encode "[" = [0x5B] ∧ Utf8.encode "]" = [0x5D] := by decide
    cases items with
    | nil =>
      have text : Utf8.encode (pretty level (.array [])) = [0x5B, 0x5D] := by
        rw [pretty]
        decide
      rw [text]
      exact .noItems
    | cons item rest =>
      have laid := Laid.array
        (laidItems_prettyItems fun other member => ih other member (level + 1))
      simpa [pretty, mapNumbers, encode_newLine, brackets] using laid
  | object members ih =>
    have braces : Utf8.encode "\x7b" = [0x7B] ∧ Utf8.encode "\x7d" = [0x7D] := by decide
    cases members with
    | nil =>
      have text : Utf8.encode (pretty level (.object [])) = [0x7B, 0x7D] := by
        rw [pretty]
        decide
      rw [text]
      exact .noMembers
    | cons entry rest =>
      have laid := Laid.object
        (laidMembers_prettyMembers fun other member => ih other member (level + 1))
      simpa [pretty, mapNumbers, encode_newLine, braces] using laid

end NaturalKey.Json
