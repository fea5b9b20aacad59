import NaturalKey.Proofs.Json.Settled.Value
import NaturalKey.Proofs.Json.Text
import NaturalKey.Proofs.Record.Members
import NaturalKey.Proofs.Seed.Records

/-!
The same record from a seed file and from a document. The attributes are read inside the document
there, and as a document of their own here; they come to the same object, and there is room for them
here if there was there.
-/

set_option autoImplicit false

namespace NaturalKey.Seed

open Json (ObjectText)

namespace Row

def texts (row : Row) : List String :=
  [row.tenant, row.recordType, row.key, row.id, row.attributes]

/-- How the members of a record are written that has the texts of a row: strings in any way there
is, and the attributes as they stand in the row. -/
def Writes (row : Row) : Record.Member → List UInt8 → Prop
  | .tenant, text => Json.Spells (.string row.tenant) text
  | .recordType, text => Json.Spells (.string row.recordType) text
  | .keyField, text => Json.Spells (.string row.key) text
  | .id, text => Json.Spells (.string row.id) text
  | .attributes, text => text = Utf8.encode row.attributes

structure Filled (row : Row) : Prop where
  tenant : row.tenant ≠ ""
  recordType : row.recordType ≠ ""
  key : row.key ≠ ""
  id : row.id ≠ ""

end Row

theorem holdsRow_fileOf (row : Row) : HoldsRow (fileOf [row.texts.map Utf8.encode]) row := by
  have nonempty : ∀ fields ∈ [row.texts.map Utf8.encode], fields ≠ [] := by simp [Row.texts]
  have fields := Csv.Reading.fields_rows_document nonempty ⟨1, 2, 30⟩
  obtain ⟨csv, below, split, written, nothing⟩ := List.map_eq_cons_iff.mp fields
  obtain rfl := List.map_eq_nil_iff.mp nothing
  have named : Named ((Column.all.map Column.name).map Text.trim) := by
    constructor
    · decide
    · intro column
      cases column <;> decide
  refine ⟨Column.all.map Column.name, row.texts, ?_, named, Nat.le_refl 5, ?_⟩
  · rw [fileOf, rowsOf_headerLine, split]
    exact .cons (List.map_map.symm) (.cons written .nil)
  · cases row
    rfl

theorem trim_of_objectText {text : String} (h : ObjectText (Utf8.encode text)) :
    Text.trim text = text := by
  apply Text.trim_eq_self
  · intro c first
    have brace : c = '\x7b' := Char.toNat_inj.mp (Utf8.toNat_head h.opening (by decide) first)
    rw [brace]
    decide
  · intro c last
    have brace : c = '\x7d' := Char.toNat_inj.mp (Utf8.toNat_getLast h.closing (by decide) last)
    rw [brace]
    decide

/-- A record that is read from a document is read as well from a seed file whose one row has the
texts of its members. -/
theorem records_fileOf_of_parse {row : Row} (bare : row.Bare) (filled : row.Filled)
    (attributes : ObjectText (Utf8.encode row.attributes)) {document : List UInt8}
    (written : Record.DocumentOf row.Writes document) {record : Record}
    (read : Record.parse document = .ok record) :
    records (fileOf [row.texts.map Utf8.encode]) = [.ok record] := by
  obtain ⟨tenant, -, tenantText⟩ := exists_tag bare.trimmed.tenant filled.tenant
  obtain ⟨recordType, -, typeText⟩ := exists_tag bare.trimmed.recordType filled.recordType
  obtain ⟨id, -, idText⟩ := exists_tag bare.trimmed.id filled.id
  have room : Record.attributeBudget < Json.depthLimit := by decide
  obtain ⟨outcome, inside, alone⟩ := attributes.exists_agrees_readObject room
  let parts : Record.Parts := ⟨tenant, recordType, row.key, id, outcome⟩
  have parts_writes : Record.DocumentOf parts.Writes document := by
    apply written.imp
    intro member text writes
    cases member with
    | tenant => rwa [Row.Writes, ← tenantText] at writes
    | recordType => rwa [Row.Writes, ← typeText] at writes
    | keyField => exact writes
    | id => rwa [Row.Writes, ← idText] at writes
    | attributes =>
      obtain rfl := writes
      exact inside
  have made := (Record.Parts.parse_eq_ok_iff parts_writes).mp read
  obtain ⟨object, found, rfl⟩ := map_eq_ok.mp made
  have bareRow : row.trim = row := by
    rw [Row.trim, bare.tenant, bare.recordType, bare.key, bare.id, trim_of_objectText attributes]
  apply (holdsRow_fileOf row).records_eq_iff.mpr
  rw [bareRow]
  have nonempty : row.attributes ≠ "" := by
    intro empty
    have opening := attributes.opening
    rw [empty] at opening
    cases opening
  refine .record filled.key (.object nonempty (alone object found)) typeText idText rfl ?_
  rw [if_neg filled.tenant]
  exact tenantText

def spelledOut : Row :=
  ⟨"acme, inc", "User", "user_id", "u-1",
    "\x7b\x22a\x22:\x22\\u00e9\\n\x22, \x22a\x22 :[-1.50e+1 , null]\x7d"⟩

theorem space_singleton : Json.Space [0x20] := by simp [Json.Space, Json.isSpace]

theorem objectText_spelledOut : ObjectText (Utf8.encode spelledOut.attributes) := by
  have name : Json.LettersText ([0x61] ++ []) :=
    .cons (.plain (by decide) (by decide) (by decide)) .nil
  have number : Json.LetterText [0x5C, 0x75, 0x30, 0x30, 0x65, 0x39] := .number rfl rfl rfl rfl
  have lineFeed : Json.LetterText [0x5C, 0x6E] := .escape (by decide)
  have text := Json.ValueText.string (.cons number (.cons lineFeed .nil))
  have whole : Json.WholeText [0x31] := .digits rfl (by decide) (by simp)
  have fraction : Json.FractionText [0x2E, 0x35, 0x30] := .some ⟨by simp, by simp [Json.isDigit]⟩
  have exponent : Json.ExponentText (0x65 :: ([0x2B] ++ [0x31])) :=
    .some rfl .plus ⟨by simp, by simp [Json.isDigit]⟩
  have negative := Json.ValueText.number (@Json.NumberText.parts true _ _ _ whole fraction exponent)
  have both {α : Type} {P : α → Prop} {x y : α} (first : P x) (second : P y) : ∀ z ∈ [x, y], P z :=
    List.forall_mem_cons.mpr ⟨first, List.forall_mem_singleton.mpr second⟩
  have items := Json.ValueText.array (both negative .null)
    (.more (.first Json.space_nil) rfl
      (.more (.comma space_singleton space_singleton) rfl (.close Json.space_nil)))
  have object := @Json.ValueText.object [(_, _), (_, _)] _ (both name name) (both text items)
    (.more (.first Json.space_nil) rfl Json.space_nil Json.space_nil rfl
      (.more (.comma Json.space_nil space_singleton) rfl space_singleton Json.space_nil rfl
        (.close Json.space_nil)))
  constructor
  · exact Eq.subst (motive := Json.ValueText) (by decide +kernel) object
  · decide +kernel

def spelledOutDocument : List UInt8 :=
  Utf8.encode ("\n\x7b\x22id\x22: \x22u-1\x22, \x22attributes\x22 :" ++ spelledOut.attributes ++
    ",\x22type\x22:\x22User\x22,\x22key_field\x22:\x22user_id\x22, \x22tenant\x22:\x22acme, inc\x22\x7d ")

theorem documentOf_spelledOut : Record.DocumentOf spelledOut.Writes spelledOutDocument := by
  have named (member : Record.Member) : Json.SpellsName member.name _ := Json.spellsText_escape _
  have spelled (text : String) := Json.Spells.string (Json.spellsText_escape text.toList)
  have document := @Record.DocumentOf.members spelledOut.Writes
    [.id, .attributes, .recordType, .keyField, .tenant] [0x0A] _ [0x20] (by decide)
    (by simp [Json.Space, Json.isSpace])
    (.more (.first Json.space_nil) (named _) Json.space_nil space_singleton (spelled "u-1")
      (.more (.comma Json.space_nil space_singleton) (named _) space_singleton Json.space_nil rfl
        (.more (.comma Json.space_nil Json.space_nil) (named _) Json.space_nil Json.space_nil
          (spelled "User")
          (.more (.comma Json.space_nil Json.space_nil) (named _) Json.space_nil Json.space_nil
            (spelled "user_id")
            (.more (.comma Json.space_nil space_singleton) (named _) Json.space_nil Json.space_nil
              (spelled "acme, inc") (.close Json.space_nil))))))
    space_singleton
  exact Eq.subst (motive := Record.DocumentOf spelledOut.Writes) (by decide +kernel) document

/-- Both are read, and as the same record: of the two attributes of one name the last counts. -/
theorem records_fileOf_spelledOut :
    spelledOut.Bare ∧ spelledOut.Filled ∧ ObjectText (Utf8.encode spelledOut.attributes) ∧
      Record.DocumentOf spelledOut.Writes spelledOutDocument ∧
      ∃ record : Record, Record.parse spelledOutDocument = .ok record ∧
        records (fileOf [spelledOut.texts.map Utf8.encode]) = [.ok record] ∧
        record.attributes.toJson.compact = "\x7b\x22a\x22:[-15.0,null]\x7d" := by
  have bare : spelledOut.Bare := ⟨by decide, by decide, by decide, by decide⟩
  have filled : spelledOut.Filled := ⟨by decide, by decide, by decide, by decide⟩
  have parsed : (Record.parse spelledOutDocument).toOption.map
      (fun record => record.attributes.toJson.compact) =
        some "\x7b\x22a\x22:[-15.0,null]\x7d" := by
    decide +kernel
  cases read : Record.parse spelledOutDocument with
  | error fault =>
    rw [read] at parsed
    cases parsed
  | ok record =>
    rw [read] at parsed
    exact ⟨bare, filled, objectText_spelledOut, documentOf_spelledOut, record, rfl,
      records_fileOf_of_parse bare filled objectText_spelledOut documentOf_spelledOut read,
      Option.some.inj parsed⟩

end NaturalKey.Seed
