import NaturalKey.Proofs.Record.Refused

/-!
Records cannot have blank tags. A document is refused where a tenant, a type or an id is a string of
white space, in an object under any spelling of its name, and in an array at its place.
-/

set_option autoImplicit false

namespace NaturalKey.Record

open Json (Agrees Cause EndsNumeral ItemsOf LettersText ObjectWith Reader SettledBy Space Spells
  SpellsName Stop Takes ValueText)

def Member.tags : List Member :=
  [.tenant, .recordType, .id]

/-- The text is a string of white space, however it is spelled. -/
def SpellsBlank (text : List UInt8) : Prop :=
  ∃ blank : String, Text.isBlank blank = true ∧ Spells (.string blank) text

section Blank

variable {kind : Tag.Kind} {text before after rest left : List UInt8}

theorem not_takes_readTag (refusal : Cause → List UInt8 → Stop) (h : SpellsBlank text)
    {space : List UInt8} (spaces : Space space) (tag : Tag kind) :
    ¬Takes (readTag kind refusal (space ++ (text ++ rest))) tag left := by
  obtain ⟨blank, isBlank, spelled⟩ := h
  obtain ⟨_, read⟩ := Json.takes_readString spelled spaces rest
  rintro ⟨_, taken⟩
  simp only [readTag, read, Tag.ofText_of_isBlank isBlank, reduceCtorEq] at taken

/-! ### Objects -/

theorem exists_takes_of_map {α β : Type} {reader : Reader α} {f : α → β} {text : List UInt8}
    (spaceBefore : Space before) {value : β}
    (taken : Takes ((Json.afterColon reader (before ++ 0x3A :: text)).map (Json.Step.map f))
      value left) :
    ∃ value, Takes (reader text) value left := by
  obtain ⟨_, colon⟩ := Json.takes_colon spaceBefore text
  obtain ⟨_, taken⟩ := taken
  simp only [Json.afterColon, colon] at taken
  cases read : reader text with
  | error stop =>
    rw [read] at taken
    cases taken
  | ok step =>
    rw [read] at taken
    cases taken
    exact ⟨step.value, step.shorter, rfl⟩

theorem not_takes_readMember {member : Member} (isTag : member ∈ Member.tags) (h : SpellsBlank text)
    (draft next : Draft) (spaceBefore : Space before) (spaceAfter : Space after) :
    ¬Takes (readMember member.name draft (before ++ 0x3A :: (after ++ (text ++ rest))))
      next left := by
  intro taken
  simp only [readMember, Member.ofName?_name] at taken
  cases there : draft.has member with
  | true =>
    obtain ⟨_, taken⟩ := taken
    simp [there] at taken
  | false =>
    simp only [there, Bool.false_eq_true, if_false] at taken
    cases member with
    | tenant =>
      obtain ⟨tag, taken⟩ := exists_takes_of_map spaceBefore taken
      exact not_takes_readTag _ h spaceAfter tag taken
    | recordType =>
      obtain ⟨tag, taken⟩ := exists_takes_of_map spaceBefore taken
      exact not_takes_readTag _ h spaceAfter tag taken
    | id =>
      obtain ⟨tag, taken⟩ := exists_takes_of_map spaceBefore taken
      exact not_takes_readTag _ h spaceAfter tag taken
    | keyField => exact absurd isTag (by decide)
    | attributes => exact absurd isTag (by decide)

/-- An object is refused if one of its members is a tag and its value is blank. -/
theorem exists_fault_of_blankMember {members : List (List UInt8 × List UInt8)} {member : Member}
    {letters : List UInt8} (object : ObjectWith members text) (spaces : Space before)
    {value : List UInt8} (among : (letters, value) ∈ members)
    (named : SpellsName member.name letters)
    (isTag : member ∈ Member.tags) (blank : SpellsBlank value) (rest : List UInt8) :
    ∃ fault, parse (before ++ (text ++ rest)) = .error fault := by
  cases outcome : parse (before ++ (text ++ rest)) with
  | error fault => exact ⟨fault, rfl⟩
  | ok record =>
    exfalso
    obtain ⟨nameOf, adopt, meaning⟩ := exists_meaning
    obtain ⟨draft, -, folded⟩ := exists_draft_of_parse meaning object spaces outcome
    obtain ⟨names, values, -⟩ := object
    obtain ⟨state, next, step⟩ := exists_step_of_foldlM folded among
    obtain ⟨name, read, adopted⟩ := bind_eq_ok.mp step
    have same := ((meaning.name letters (names _ among) []).of_takes
      (Json.agrees_stringRest named [])).1
    simp only at read adopted
    rw [same] at read
    cases read
    have taken := meaning.member member.name value (values _ among) state Json.space_nil
      Json.space_nil Json.endsNumeral_nil
    rw [adopted] at taken
    exact not_takes_readMember isTag blank state next Json.space_nil Json.space_nil taken

/-! ### Arrays -/

theorem cause_refusalInArray (cause : Cause) (rest : List UInt8) :
    (refusalInArray cause rest).cause = cause := by
  rw [refusalInArray]
  repeat' split
  all_goals rfl

theorem exists_others_of_readItem {α : Type} {reader : Reader α} (index : Nat)
    {items : List (List UInt8)} {bytes : List UInt8}
    (written : ItemsOf (· = ·) (index == 0) items bytes) (values : ∀ item ∈ items, ValueText item)
    (settled : ∀ {item}, ValueText item → SettledBy reader item) {value : α}
    (taken : Takes (readItem index reader (bytes ++ rest)) value left) :
    ∃ item others more, items = item :: others ∧ ItemsOf (· = ·) false others more ∧
      left = more ++ rest ∧ ∃ left, Takes (reader ([] ++ (item ++ []))) value left := by
  cases items with
  | nil =>
    cases written with
    | close spaces =>
      obtain ⟨_, closed⟩ := Json.nextItem_close spaces (index == 0) rest
      rw [List.append_assoc, List.singleton_append] at taken
      obtain ⟨_, taken⟩ := taken
      simp only [readItem, closed, Json.fail, reduceCtorEq] at taken
  | cons item others =>
    obtain ⟨expected, read⟩ := settled (values item List.mem_cons_self)
    have starts {text : List UInt8} (same : item = text) : Json.Starts text :=
      same ▸ (values item List.mem_cons_self).starts
    obtain ⟨more, writtenOthers, readItem⟩ := exists_agrees_readItem index written starts
      fun same ends => same ▸ read Json.space_nil ends
    obtain ⟨rfl, rfl⟩ := (readItem rest).of_takes taken
    exact ⟨item, others, more, rfl, writtenOthers, rfl, [],
      read Json.space_nil Json.endsNumeral_nil⟩

theorem exists_readItems_of_parse {bytes : List UInt8} (spaces : Space before) {record : Record}
    (read : parse (before ++ 0x5B :: bytes) = .ok record) :
    ∃ left, Takes (readItems bytes) record left := by
  obtain ⟨le, found⟩ := Json.afterSpace_append spaces (b := 0x5B) (by decide) bytes
  have noBrace : ¬(0x5B : UInt8) = 0x7B := by decide
  obtain ⟨_, -, _, taken⟩ := exists_takes_of_parse read
  simp only [Record.read, found, if_neg noBrace, if_true] at taken
  cases items : readItems bytes with
  | error stop =>
    rw [items] at taken
    cases taken
  | ok step =>
    rw [items] at taken
    cases taken
    exact ⟨step.rest, step.shorter, rfl⟩

theorem exists_items_of_takes {bytes : List UInt8} {record : Record}
    (h : Takes (readItems bytes) record left) :
    ∃ afterTenant afterType afterKey afterId,
      Takes (readItem 0 (readTag .tenant refusalInArray) bytes) record.tenant afterTenant ∧
      Takes (readItem 1 (readTag .recordType refusalInArray) afterTenant)
        record.recordType afterType ∧
      Takes (readItem 2 Json.readString afterType) record.keyField afterKey ∧
      Takes (readItem 3 (readTag .id refusalInArray) afterKey) record.id afterId := by
  obtain ⟨_, read⟩ := h
  simp only [readItems, bind_eq_ok] at read
  obtain ⟨tenant, readTenant, recordType, readType, keyField, readKey, id, readId,
      attributes, -, same⟩ :=
    read
  cases same
  exact ⟨_, _, _, _, ⟨tenant.shorter, readTenant⟩, ⟨recordType.shorter, readType⟩,
    ⟨keyField.shorter, readKey⟩, ⟨id.shorter, readId⟩⟩

theorem exists_fault_of_blankItem {items : List (List UInt8)} {bytes : List UInt8}
    (written : ItemsOf (· = ·) true items bytes) (values : ∀ item ∈ items, ValueText item)
    (spaces : Space before) {member : Member} {item : List UInt8}
    (among : (member, item) ∈ Member.all.zip items) (isTag : member ∈ Member.tags)
    (blank : SpellsBlank item) (rest : List UInt8) :
    ∃ fault, parse (before ++ 0x5B :: (bytes ++ rest)) = .error fault := by
  cases outcome : parse (before ++ 0x5B :: (bytes ++ rest)) with
  | error fault => exact ⟨fault, rfl⟩
  | ok record =>
    exfalso
    obtain ⟨_, read⟩ := exists_readItems_of_parse spaces outcome
    obtain ⟨_, _, _, _, tenant, recordType, keyField, id⟩ := exists_items_of_takes read
    obtain ⟨first, items, bytes, rfl, written, rfl, _, tenant⟩ :=
      exists_others_of_readItem 0 written values
        (settledBy_readTag .tenant cause_refusalInArray) tenant
    have values := (List.forall_mem_cons.mp values).2
    obtain ⟨second, items, bytes, rfl, written, rfl, _, recordType⟩ :=
      exists_others_of_readItem 1 written values
        (settledBy_readTag .recordType cause_refusalInArray)
        recordType
    have values := (List.forall_mem_cons.mp values).2
    obtain ⟨third, items, bytes, rfl, written, rfl, -⟩ :=
      exists_others_of_readItem 2 written values ValueText.settledBy_readString keyField
    have values := (List.forall_mem_cons.mp values).2
    obtain ⟨fourth, items, bytes, rfl, -, -, _, id⟩ :=
      exists_others_of_readItem 3 written values (settledBy_readTag .id cause_refusalInArray) id
    have places : Member.all.zip (first :: second :: third :: fourth :: items) =
        (.tenant, first) :: (.recordType, second) :: (.keyField, third) :: (.id, fourth) ::
          [Member.attributes].zip items := rfl
    simp only [places, List.mem_cons, Prod.mk.injEq] at among
    rcases among with ⟨rfl, rfl⟩ | ⟨rfl, rfl⟩ | ⟨rfl, rfl⟩ | ⟨rfl, rfl⟩ | last
    · exact not_takes_readTag _ blank Json.space_nil _ tenant
    · exact not_takes_readTag _ blank Json.space_nil _ recordType
    · exact absurd isTag (by decide)
    · exact not_takes_readTag _ blank Json.space_nil _ id
    · obtain rfl : member = .attributes := by simpa using (List.of_mem_zip last).1
      exact absurd isTag (by decide)

end Blank

end NaturalKey.Record
