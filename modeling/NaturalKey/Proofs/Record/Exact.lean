import NaturalKey.Proofs.Json.Exact
import NaturalKey.Proofs.Record.Reading
import NaturalKey.Proofs.Record.Shapes
import NaturalKey.Proofs.Record.Written

/-!
Attributes from the document a record is read from to the one it is written as. The integers in them
come through digit by digit if 64 bits hold each of them. A larger one is taken for a double, if
there is one next to it: the document is read and written all the same, but it does not have that
integer any more.
-/

set_option autoImplicit false

namespace NaturalKey.Record

open Json (MembersOf Space Spells SpellsName ValueText membersOf_map_iff)

/-! ### Documents of spelled members -/

theorem documentOf_of_spells {record : Record} {Writes : Member → List UInt8 → Prop}
    (each : ∀ member text, Spells (record.value member) text → Writes member text)
    {text after : List UInt8} (spelled : Spells record.toJson text) (blank : Space after) :
    DocumentOf Writes (text ++ after) := by
  rw [toJson_eq_entries] at spelled
  cases spelled with
  | object members =>
    have entries : record.entries = (Member.all.map fun member => (member, member)).map fun entry =>
        (entry.1.name, record.value entry.2) := by
      rw [List.map_map]
      rfl
    have written := members.membersOf
    rw [entries, membersOf_map_iff] at written
    exact .members (.refl _) Json.space_nil
      (written.imp (fun _ _ named => named) fun entry _ => each entry.2) blank

/-- Where what spells an object has a document of other members, the text of each of them spells
some value of the object. -/
theorem DocumentOf.exists_value {Writes : Member → List UInt8 → Prop}
    (values : ∀ member text, Writes member text → ValueText text) {members : List (String × Json)}
    {text after : List UInt8} (h : DocumentOf Writes (text ++ after))
    (spelled : Spells (.object members) text) (member : Member) :
    ∃ text json, Writes member text ∧ Spells json text := by
  generalize whole : text ++ after = document at h
  cases h with
  | @members order before bytes space perm spaceBefore written _ =>
    cases spelled with
    | @object _ bytes' spelled =>
      rw [List.cons_append] at whole
      cases before with
      | cons b more =>
        have first : 0x7B = b := (List.cons.inj whole).1
        exact absurd (spaceBefore b List.mem_cons_self) (by rw [← first]; decide)
      | nil =>
        have same : bytes ++ space = bytes' ++ after := (List.cons.inj whole).2.symm
        have named : MembersOf SpellsName Writes true
            ((order.map fun member => (member, member)).map
            fun entry => (entry.1.name, entry.2)) bytes :=
          (membersOf_map_iff (g := fun member => member)).mpr written
        have among : (member.name, member) ∈ (order.map fun member => (member, member)).map
            fun entry => (entry.1.name, entry.2) := by
          rw [List.map_map]
          exact List.mem_map.mpr ⟨member, perm.mem_iff.mpr (by cases member <;> decide), rfl⟩
        obtain ⟨text, writes, value, -, -, spells⟩ := named.exists_same spelled.membersOf same
          (fun entry _ => values entry.2) (fun _ _ _ spells => spells.valueText) _ among
        exact ⟨text, value.2, writes, spells⟩

/-! ### Records of integers -/

/-- A record as it is meant, with integers of any size in its attributes. -/
structure Exact where
  tenant : Tenant
  recordType : RecordType
  keyField : String
  id : RecordId
  members : List (String × Json.Exact)

namespace Exact

def attributes (exact : Exact) : Json.Exact :=
  .object exact.members

def Writes (exact : Exact) : Member → List UInt8 → Prop
  | .tenant, text => Spells (.string exact.tenant.text) text
  | .recordType, text => Spells (.string exact.recordType.text) text
  | .keyField, text => Spells (.string exact.keyField) text
  | .id, text => Spells (.string exact.id.text) text
  | .attributes, text => exact.attributes.Denotes text

/-- All members are there; or all but the attributes are, which are empty. -/
def Complete (exact : Exact) (members : List Member) : Prop :=
  members = Member.all ∨ members = Member.required ∧ exact.members = []

def record (exact : Exact) (attributes : Json.Object) : Record :=
  ⟨exact.tenant, exact.recordType, exact.keyField, exact.id, attributes⟩

variable {exact : Exact} {object : Json.Object} {members : List Member} {document text : List UInt8}

theorem Writes.valueText {member : Member} (h : exact.Writes member text) : ValueText text := by
  cases member with
  | attributes => exact Json.Exact.Denotes.valueText h
  | _ => exact Json.Spells.valueText h

theorem writes_of_spells (held : exact.attributes.HeldAs object.toJson) {member : Member}
    (spelled : Spells ((exact.record object).value member) text) : exact.Writes member text := by
  cases member with
  | attributes => exact held.denotes spelled
  | _ => exact spelled

theorem exists_attributes (complete : exact.Complete members) (fits : exact.attributes.Fits)
    {texts : Member → List UInt8} (each : ∀ member ∈ members, exact.Writes member (texts member)) :
    ∃ held : List (String × Json), exact.attributes.HeldAs (.object held) ∧
      (.attributes ∈ members → Spells (.object held) (texts .attributes)) ∧
      (members = Member.required → held = []) := by
  rcases complete with rfl | ⟨rfl, none⟩
  · have denotes : exact.attributes.Denotes (texts .attributes) :=
      each .attributes (by decide)
    obtain ⟨json, spelled, held⟩ := denotes.exists_spells fits
    cases held with
    | object held perm =>
      exact ⟨_, .object held perm, fun _ => spelled, fun same => absurd same (by decide)⟩
  · refine ⟨[], ?_, fun among => absurd among (by decide), fun _ => rfl⟩
    rw [attributes, none]
    exact @Json.Exact.HeldAs.object [] [] nofun (.refl _)

/-- Where 64 bits hold the integers, the document is read as the record that is meant. -/
theorem exists_parse (distinct : exact.attributes.Distinct)
    (within : exact.attributes.Within (attributeBudget + 1)) (complete : exact.Complete members)
    (shape : ShapeOf exact.Writes members document) (fits : exact.attributes.Fits) :
    ∃ object, parse document = .ok (exact.record object) ∧
      exact.attributes.HeldAs object.toJson := by
  have once := Member.nodup (complete.imp_right And.left)
  obtain ⟨texts, each, shape⟩ := shape.exists_texts once
  obtain ⟨held, heldAs, spelled, missing⟩ := exists_attributes complete fits each
  refine ⟨Json.Object.empty.putAll held, parse_shapeOf ?_ (shape.imp ?_),
    heldAs.canonicalize distinct⟩
  · rcases complete with rfl | ⟨rfl, -⟩
    · exact .inl rfl
    · rw [missing rfl]
      exact .inr ⟨rfl, rfl⟩
  · rintro member among _ rfl
    cases member with
    | attributes => exact ⟨held, spelled among, heldAs.depth_le within, rfl⟩
    | _ => exact each _ among

theorem documentOf_record (held : exact.attributes.HeldAs object.toJson) :
    DocumentOf exact.Writes (Utf8.encode ((exact.record object).prettyText ++ "\n")) := by
  have integral : (exact.record object).Integral := held.integral
  have spelled := (exact.record object).spells_prettyText
  rw [reread_of_integral integral] at spelled
  rw [Utf8.encode_append]
  exact documentOf_of_spells (fun _ _ => writes_of_spells held) spelled Json.space_lineBreak

/-- Each text in what is written spells a value, so none is that of a larger integer. -/
theorem fits_of_documentOf {record : Record}
    (h : DocumentOf exact.Writes (Utf8.encode (record.prettyText ++ "\n"))) :
    exact.attributes.Fits := by
  rw [Utf8.encode_append] at h
  have spelled := record.spells_prettyText
  rw [toJson_eq_entries] at spelled
  obtain ⟨text, json, denotes, spells⟩ :=
    h.exists_value (fun _ _ => Writes.valueText) spelled .attributes
  exact Json.Exact.Denotes.fits denotes spells

/-- The document is read, and what is written then has all that was meant in it. -/
def PassesThrough (exact : Exact) (document : List UInt8) : Prop :=
  ∃ record written, parse document = .ok record ∧
    Sink.unlimited.write record = (.ok (), ⟨none, written⟩) ∧ DocumentOf exact.Writes written

theorem PassesThrough.fits (h : exact.PassesThrough document) : exact.attributes.Fits := by
  obtain ⟨record, written, -, wrote, document⟩ := h
  simp only [Sink.write_unlimited, Prod.mk.injEq, Sink.mk.injEq, true_and] at wrote
  rw [← wrote] at document
  exact fits_of_documentOf document

/-- A record is written with the attributes it has been read with, each integer digit by digit, if
and only if each of the integers is one that 64 bits hold; no matter how the document spells it and
where in the attributes the integers are. -/
theorem passesThrough_iff (distinct : exact.attributes.Distinct)
    (within : exact.attributes.Within (attributeBudget + 1)) (complete : exact.Complete members)
    (shape : ShapeOf exact.Writes members document) :
    exact.PassesThrough document ↔ exact.attributes.Fits := by
  constructor
  · exact PassesThrough.fits
  · intro fits
    obtain ⟨object, read, held⟩ := exists_parse distinct within complete shape fits
    exact ⟨_, _, read, Sink.write_unlimited _, documentOf_record held⟩

def numbers (m n : Int) : Exact :=
  ⟨Tenant.default, ⟨"User", isBlank_user⟩, "user_id", ⟨"b-1", by decide⟩,
    [("n", .array [.integer m, .object [("n", .integer n)]])]⟩

def numbersDocument (m n : Int) : List UInt8 :=
  Utf8.encode ("[\x22default\x22,\x22User\x22,\x22user_id\x22,\x22b-1\x22, \x7b\x22n\x22:[" ++
    Json.integerText m ++ ",\x7b\x22n\x22:" ++ Json.integerText n ++ "\x7d]\x7d]")

/-- The integers on both sides of each end of what 64 bits hold. -/
def borders : List (Int × Int) :=
  [(-2 ^ 63, 2 ^ 64 - 1), (-2 ^ 63 - 1, 0), (0, 2 ^ 64)]

theorem shapeOf_numbersDocument {m n : Int} (h : (m, n) ∈ borders) :
    ShapeOf (numbers m n).Writes Member.all (numbersDocument m n) := by
  have named (name : String) : SpellsName name _ := Json.spellsText_escape _
  have spelled (text : String) := Json.Spells.string (Json.spellsText_escape text.toList)
  have space : Space [0x20] := by simp [Space, Json.isSpace]
  have single {value : Json.Exact} {text : List UInt8} (h : value.Denotes text) :
      Json.Exact.Denotes (.object [("n", value)]) _ :=
    @Json.Exact.Denotes.object _ [("n", _, _)] _ (List.forall_mem_singleton.mpr h) (.refl _)
      (.more (.first Json.space_nil) (named _) Json.space_nil Json.space_nil rfl
        (.close Json.space_nil))
  have items : Json.Exact.Denotes (.array [.integer m, .object [("n", .integer n)]]) _ :=
    @Json.Exact.Denotes.array [(_, _), (_, _)] _
      (List.forall_mem_cons.mpr ⟨.integer, List.forall_mem_singleton.mpr (single .integer)⟩)
      (.more (.first Json.space_nil) rfl
        (.more (.comma Json.space_nil Json.space_nil) rfl (.close Json.space_nil)))
  have attributes : (numbers m n).Writes .attributes _ := single items
  have document := @ShapeOf.array (numbers m n).Writes Member.all [] _ [] Json.space_nil
    (.more (.first Json.space_nil) (spelled "default")
      (.more (.comma Json.space_nil Json.space_nil) (spelled "User")
        (.more (.comma Json.space_nil Json.space_nil) (spelled "user_id")
          (.more (.comma Json.space_nil Json.space_nil) (spelled "b-1")
            (.more (.comma Json.space_nil space) attributes (.close Json.space_nil))))))
    Json.space_nil
  refine Eq.subst (motive := ShapeOf (numbers m n).Writes Member.all) ?_ document
  simp only [borders, List.mem_cons, Prod.mk.injEq, List.not_mem_nil, or_false] at h
  rcases h with ⟨rfl, rfl⟩ | ⟨rfl, rfl⟩ | ⟨rfl, rfl⟩
  · decide +kernel
  · decide +kernel
  · decide +kernel

theorem distinct_numbers (m n : Int) : (numbers m n).attributes.Distinct := by
  have single {value : Json.Exact} (h : value.Distinct) :
      Json.Exact.Distinct (.object [("n", value)]) :=
    .object (List.nodup_singleton _) (List.forall_mem_singleton.mpr h)
  exact single (.array (List.forall_mem_cons.mpr
    ⟨.integer, List.forall_mem_singleton.mpr (single .integer)⟩))

theorem within_numbers (m n : Int) : (numbers m n).attributes.Within (attributeBudget + 1) :=
  .object (List.forall_mem_singleton.mpr (.array (List.forall_mem_cons.mpr
    ⟨.integer, List.forall_mem_singleton.mpr (.object (List.forall_mem_singleton.mpr .integer))⟩)))

theorem fits_numbers_iff {m n : Int} :
    (numbers m n).attributes.Fits ↔ Json.Exact.InRange m ∧ Json.Exact.InRange n := by
  constructor
  · rintro ⟨⟩
    rename_i each
    cases each _ List.mem_cons_self with
    | array items =>
      cases items _ List.mem_cons_self with
      | integer fits =>
        cases items _ (List.mem_cons_of_mem _ List.mem_cons_self) with
        | object each =>
          cases each _ List.mem_cons_self with
          | integer fits' => exact ⟨fits, fits'⟩
  · rintro ⟨fits, fits'⟩
    exact .object (List.forall_mem_singleton.mpr (.array (List.forall_mem_cons.mpr
      ⟨.integer fits, List.forall_mem_singleton.mpr
        (.object (List.forall_mem_singleton.mpr (.integer fits')))⟩)))

/-- The least and the largest integer pass through; the ones next to them do not. -/
theorem passesThrough_borders :
    (numbers (-2 ^ 63) (2 ^ 64 - 1)).PassesThrough (numbersDocument (-2 ^ 63) (2 ^ 64 - 1)) ∧
    ¬(numbers (-2 ^ 63 - 1) 0).PassesThrough (numbersDocument (-2 ^ 63 - 1) 0) ∧
    ¬(numbers 0 (2 ^ 64)).PassesThrough (numbersDocument 0 (2 ^ 64)) := by
  have through {m n : Int} (h : (m, n) ∈ borders) :=
    (passesThrough_iff (distinct_numbers m n) (within_numbers m n) (.inl rfl)
      (shapeOf_numbersDocument h)).trans fits_numbers_iff
  refine ⟨(through (by simp [borders])).mpr ?_, mt (through (by simp [borders])).mp ?_,
    mt (through (by simp [borders])).mp ?_⟩
  · decide
  · decide
  · decide

/-- The integer after the largest one is lost, though there is nothing else about the document. -/
theorem not_passesThrough_large :
    (numbers 0 (2 ^ 64)).attributes.Distinct ∧
    (numbers 0 (2 ^ 64)).attributes.Within (attributeBudget + 1) ∧
    (numbers 0 (2 ^ 64)).Complete Member.all ∧
    ShapeOf (numbers 0 (2 ^ 64)).Writes Member.all (numbersDocument 0 (2 ^ 64)) ∧
    ¬(numbers 0 (2 ^ 64)).PassesThrough (numbersDocument 0 (2 ^ 64)) := by
  refine ⟨distinct_numbers 0 _, within_numbers 0 _, .inl rfl,
    shapeOf_numbersDocument (by simp [borders]), fun through => ?_⟩
  exact absurd (fits_numbers_iff.mp through.fits) (by decide)

/-- It is written as a double. -/
example : (parse (numbersDocument 0 (2 ^ 64))).toOption.map (·.attributes.toJson.compact) =
    some "\x7b\x22n\x22:[0,\x7b\x22n\x22:1.8446744073709552e+19\x7d]\x7d" := by decide +kernel

end Exact

end NaturalKey.Record
