import Mathlib.Data.List.Forall2
import NaturalKey.Proofs.Csv.Document
import NaturalKey.Proofs.Csv.Texts
import NaturalKey.Proofs.Seed.Columns
import NaturalKey.Proofs.Seed.Decoding

/-!
What the rows of a seed file come to, one after another. Below a header that is text a row is read
by the names of the columns; only below one that is not do the fields count in their order. A table
that is written with all its fields between quotes is read as it was.
-/

set_option autoImplicit false

namespace NaturalKey.Seed

/-! ### Rows below a header -/

/-- How a row is read below a header. White space around names and texts does not count. -/
inductive ReadsAs (header csv : Csv.Row) : Row → Prop
  | byName {names texts : List String} :
      header.Holds names → csv.Holds texts → Named (names.map Text.trim) →
      names.length ≤ texts.length →
      ReadsAs header csv (.ofColumns (names.map Text.trim) (texts.map Text.trim))
  | inOrder {texts : List String} :
      (∀ names, ¬header.Holds names) → csv.Holds texts → 4 ≤ texts.length →
      ReadsAs header csv (.ofColumns (Column.all.map Column.name) (texts.map Text.trim))

theorem ReadsAs.read_eq {header csv : Csv.Row} {row : Row} (h : ReadsAs header csv row) :
    Row.read header.names? csv = .ok row := by
  cases h with
  | byName names texts named long =>
    rw [names.names?]
    apply Row.read_some_eq_ok_iff.mpr
    refine ⟨_, texts.texts, ?_, named, rfl⟩
    rwa [List.length_map, List.length_map]
  | inOrder unread texts long =>
    rw [Csv.Row.names?_eq_none_iff.mpr unread]
    apply Row.read_none_eq_ok_iff.mpr
    refine ⟨_, texts.texts, ?_, rfl⟩
    rwa [List.length_map]

theorem read_eq_ok_iff {header csv : Csv.Row} {row : Row} :
    Row.read header.names? csv = .ok row ↔ ReadsAs header csv row := by
  constructor
  · intro read
    cases known : header.names? with
    | none =>
      rw [known] at read
      obtain ⟨texts, found, long, rfl⟩ := Row.read_none_eq_ok_iff.mp read
      obtain ⟨raw, holds, rfl⟩ := Csv.Row.texts_eq_ok_iff.mp found
      rw [List.length_map] at long
      exact .inOrder (Csv.Row.names?_eq_none_iff.mp known) holds long
    | some names =>
      rw [known] at read
      obtain ⟨texts, found, long, named, rfl⟩ := Row.read_some_eq_ok_iff.mp read
      obtain ⟨raw, holds, rfl⟩ := Csv.Row.texts_eq_ok_iff.mp found
      obtain ⟨header, headed, rfl⟩ := Csv.Row.names?_eq_some_iff.mp known
      rw [List.length_map, List.length_map] at long
      exact .byName headed holds named long
  · exact ReadsAs.read_eq

def Row.trim (row : Row) : Row :=
  ⟨Text.trim row.tenant, Text.trim row.recordType, Text.trim row.key, Text.trim row.id,
    Text.trim row.attributes⟩

theorem ofColumns_map_trim (names texts : List String) :
    Row.ofColumns names (texts.map Text.trim) = (Row.ofColumns names texts).trim := by
  have each (column : Column) : (textIn? names (texts.map Text.trim) column).getD "" =
      Text.trim ((textIn? names texts column).getD "") := by
    rw [textIn?_map]
    cases textIn? names texts column with
    | none => rfl
    | some text => rfl
  unfold Row.ofColumns Row.ofTexts Row.trim
  simp only [each]

structure Row.Bare (row : Row) : Prop where
  tenant : Text.trim row.tenant = row.tenant
  recordType : Text.trim row.recordType = row.recordType
  key : Text.trim row.key = row.key
  id : Text.trim row.id = row.id

theorem Row.Bare.trimmed {row : Row} (h : row.Bare) : row.Trimmed := by
  have each (text : String) (bare : Text.trim text = text) (blank : Text.isBlank text = true) :
      text = "" := by
    rw [← bare] at blank ⊢
    exact Text.isBlank_trim_iff.mp blank
  exact ⟨each _ h.tenant, each _ h.recordType, each _ h.id⟩

theorem bare_ofColumns (names texts : List String) :
    (Row.ofColumns names (texts.map Text.trim)).Bare := by
  rw [ofColumns_map_trim]
  constructor <;> apply Text.trim_trim

theorem ReadsAs.bare {header csv : Csv.Row} {row : Row} (h : ReadsAs header csv row) :
    row.Bare := by
  cases h with
  | byName => exact bare_ofColumns _ _
  | inOrder => exact bare_ofColumns _ _

theorem ReadsAs.trimmed {header csv : Csv.Row} {row : Row} (h : ReadsAs header csv row) :
    row.Trimmed :=
  h.bare.trimmed

theorem ReadsAs.recordOfRow_eq_iff {header csv : Csv.Row} {row : Row} (h : ReadsAs header csv row)
    {outcome : Except Fault Record} :
    recordOfRow header.names? csv = outcome ↔ Decodes row outcome := by
  rw [recordOfRow, h.read_eq]
  exact record_eq_iff_decodes h.trimmed

theorem recordOfRow_eq_ok_iff {header csv : Csv.Row} {record : Record} :
    recordOfRow header.names? csv = .ok record ↔
      ∃ row, ReadsAs header csv row ∧ Decodes row (.ok record) := by
  constructor
  · intro made
    cases read : Row.read header.names? csv with
    | error fault =>
      rw [recordOfRow, read] at made
      cases made
    | ok row =>
      have readsAs := read_eq_ok_iff.mp read
      exact ⟨row, readsAs, readsAs.recordOfRow_eq_iff.mp made⟩
  · rintro ⟨row, readsAs, decodes⟩
    exact readsAs.recordOfRow_eq_iff.mpr decodes

/-! ### Any bytes -/

theorem records_of_rowsOf {text : List UInt8} {header : Csv.Row} {rows : List Csv.Row}
    (h : Csv.rowsOf text = header :: rows) :
    records text = rows.map (recordOfRow header.names?) := by
  rw [records, Csv.Table.ofText, h]

theorem records_of_empty {text : List UInt8} (h : Csv.rowsOf text = []) : records text = [] := by
  rw [records, Csv.Table.ofText, h]
  rfl

theorem exists_readsAs_of_mem {text : List UInt8} {record : Record}
    (h : .ok record ∈ records text) :
    ∃ header csv row, ReadsAs header csv row ∧ Decodes row (.ok record) := by
  cases split : Csv.rowsOf text with
  | nil =>
    rw [records_of_empty split] at h
    cases h
  | cons header rows =>
    rw [records_of_rowsOf split] at h
    obtain ⟨csv, -, made⟩ := List.mem_map.mp h
    obtain ⟨row, readsAs, decodes⟩ := recordOfRow_eq_ok_iff.mp made
    exact ⟨header, csv, row, readsAs, decodes⟩

/-- The type of a record from a seed file has no white space at its ends. -/
theorem trim_recordType {text : List UInt8} {record : Record} (h : .ok record ∈ records text) :
    Text.trim record.recordType.text = record.recordType.text := by
  obtain ⟨header, csv, row, readsAs, decodes⟩ := exists_readsAs_of_mem h
  cases decodes with
  | record key attributes recordType id keyField tenant =>
    rw [recordType]
    exact readsAs.bare.recordType

/-- There is one row, with these texts below the names of its columns. -/
def HoldsRow (text : List UInt8) (row : Row) : Prop :=
  ∃ names texts : List String,
    List.Forall₂ Csv.Row.Holds (Csv.rowsOf text) [names, texts] ∧ Named (names.map Text.trim) ∧
      names.length ≤ texts.length ∧ Row.ofColumns (names.map Text.trim) texts = row

theorem HoldsRow.records_eq_iff {text : List UInt8} {row : Row} (h : HoldsRow text row)
    {outcome : Except Fault Record} : records text = [outcome] ↔ Decodes row.trim outcome := by
  obtain ⟨names, texts, holds, named, long, rfl⟩ := h
  obtain ⟨header, below, headed, rest, split⟩ := List.forall₂_cons_right_iff.mp holds
  obtain ⟨csv, after, spelled, nothing, rfl⟩ := List.forall₂_cons_right_iff.mp rest
  obtain rfl := List.forall₂_nil_right_iff.mp nothing
  have readsAs := ReadsAs.byName headed spelled named long
  rw [records_of_rowsOf split, List.map_singleton, List.singleton_inj,
    readsAs.recordOfRow_eq_iff, ofColumns_map_trim]

theorem HoldsRow.exists_record {text : List UInt8} {typeText field idText : String}
    (h : HoldsRow text ⟨"", typeText, field, idText, ""⟩)
    (recordType : Text.isBlank typeText = false) (key : Text.isBlank field = false)
    (id : Text.isBlank idText = false) :
    ∃ record : Record, records text = [.ok record] ∧ record.tenant = Tenant.default ∧
      record.recordType.text = Text.trim typeText ∧ record.keyField = Text.trim field ∧
      record.id.text = Text.trim idText ∧ record.attributes = .empty := by
  let record : Record :=
    ⟨Tenant.default, ⟨Text.trim typeText, (Text.isBlank_trim typeText).trans recordType⟩,
      Text.trim field, ⟨Text.trim idText, (Text.isBlank_trim idText).trans id⟩, .empty⟩
  refine ⟨record, ?_, rfl, rfl, rfl, rfl, rfl⟩
  apply h.records_eq_iff.mpr
  exact .record (Text.trim_ne_empty key) (.empty rfl) rfl rfl rfl rfl

/-- Whatever bytes a seed file holds, there is one outcome for each row below the first, and it is a
record only if it is the one that the row spells below that header. -/
theorem records_iff_readsAs (text : List UInt8) :
    List.Forall₂ (fun csv outcome => ∀ record, outcome = .ok record ↔
        ∃ header, (Csv.rowsOf text).head? = some header ∧
          ∃ row, ReadsAs header csv row ∧ Decodes row (.ok record))
      (Csv.rowsOf text).tail (records text) := by
  cases split : Csv.rowsOf text with
  | nil =>
    rw [records_of_empty split]
    exact .nil
  | cons header rows =>
    rw [records_of_rowsOf split, List.tail_cons, List.forall₂_map_right_iff, List.forall₂_same]
    intro csv _ record
    rw [recordOfRow_eq_ok_iff]
    simp only [List.head?_cons, Option.some.injEq, exists_eq_left']

/-- A seed file whose header is no text, for the sake of a column that nothing needs. -/
def strayByte : List UInt8 :=
  Utf8.encode "type,key,id," ++ 0xFF :: Utf8.encode "\nUser,user_id,u-1,x"

/-- The names of the columns that are needed can be read there, but are not. -/
theorem records_strayByte :
    (Csv.rowsOf strayByte).map Csv.Row.fields =
        [["type", "key", "id"].map Utf8.encode ++ [[0xFF]],
          ["User", "user_id", "u-1", "x"].map Utf8.encode] ∧
      ∃ record : Record, records strayByte = [.ok record] ∧ record.tenant.text = "User" ∧
        record.recordType.text = "user_id" ∧ record.keyField = "u-1" ∧ record.id.text = "x" := by
  have fields : (Csv.rowsOf strayByte).map Csv.Row.fields =
      [["type", "key", "id"].map Utf8.encode ++ [[0xFF]],
        ["User", "user_id", "u-1", "x"].map Utf8.encode] := by decide +kernel
  refine ⟨fields, ?_⟩
  obtain ⟨header, below, split, headed, rest⟩ := List.map_eq_cons_iff.mp fields
  obtain ⟨row, after, rfl, holds, nothing⟩ := List.map_eq_cons_iff.mp rest
  obtain rfl := List.map_eq_nil_iff.mp nothing
  have unread : ∀ names, ¬header.Holds names := by
    apply Csv.Row.names?_eq_none_iff.mp
    rw [Csv.Row.names?, headed]
    decide +kernel
  have texts : Row.ofColumns (Column.all.map Column.name)
      (["User", "user_id", "u-1", "x"].map Text.trim) = ⟨"User", "user_id", "u-1", "x", ""⟩ := by
    decide
  have readsAs := ReadsAs.inOrder unread holds (by decide)
  rw [texts] at readsAs
  let record : Record :=
    ⟨⟨"User", by decide⟩, ⟨"user_id", by decide⟩, "u-1", ⟨"x", by decide⟩, .empty⟩
  have decodes : Decodes ⟨"User", "user_id", "u-1", "x", ""⟩ (.ok record) :=
    .record (by decide) (.empty rfl) rfl rfl rfl rfl
  refine ⟨record, ?_, rfl, rfl, rfl, rfl⟩
  rw [records_of_rowsOf split, List.map_singleton, readsAs.recordOfRow_eq_iff.mpr decodes]

/-! ### Tables that were written -/

/-- Rows of texts are read from the table that they are written as. -/
theorem holds_rowsOf_document {rows : List (List String)} (nonempty : ∀ row ∈ rows, row ≠ []) :
    List.Forall₂ Csv.Row.Holds
      (Csv.rowsOf (Csv.document (rows.map (List.map Utf8.encode)))) rows := by
  have written : ∀ fields ∈ rows.map (List.map Utf8.encode), fields ≠ [] := by
    intro fields member
    obtain ⟨row, among, rfl⟩ := List.mem_map.mp member
    exact mt List.map_eq_nil_iff.mp (nonempty row among)
  have fields := Csv.fields_rowsOf_document written
  rw [← List.forall₂_eq_eq_eq] at fields
  rwa [List.forall₂_map_left_iff, List.forall₂_map_right_iff] at fields

theorem Named.ne_nil {header : List String} (named : Named (header.map Text.trim)) :
    header ≠ [] := by
  rintro rfl
  have key := named.required .key (by decide)
  cases key

/-- A table whose header names its columns is read row by row. What a row comes to follows from its
texts below the names, wherever the columns stand and whatever the fields contain. -/
theorem records_document {header : List String} {rows : List (List String)}
    (named : Named (header.map Text.trim)) (full : ∀ row ∈ rows, row.length = header.length) :
    List.Forall₂ (fun row outcome => ∀ other, outcome = other ↔
        Decodes (.ofColumns (header.map Text.trim) (row.map Text.trim)) other)
      rows (records (Csv.document ((header :: rows).map (List.map Utf8.encode)))) := by
  have nonempty : ∀ row ∈ header :: rows, row ≠ [] := by
    rintro row member rfl
    rcases List.mem_cons.mp member with empty | member
    · exact named.ne_nil empty.symm
    · exact named.ne_nil (List.eq_nil_of_length_eq_zero (full [] member).symm)
  obtain ⟨csvHeader, csvRows, headed, below, split⟩ :=
    List.forall₂_cons_right_iff.mp (holds_rowsOf_document nonempty)
  rw [records_of_rowsOf split, List.forall₂_map_right_iff]
  have read := (List.forall₂_and_left _ _).mpr ⟨full, below.flip⟩
  apply read.imp
  intro row csv ⟨long, holds⟩ other
  have readsAs := ReadsAs.byName headed holds named (Nat.le_of_eq long.symm)
  exact readsAs.recordOfRow_eq_iff

def paddedHeader : List String :=
  ["\tid\r\n", "a \x22note\x22, or two", "attributes ", "\u00a0type", "key\u2003"]

def paddedRow : List String :=
  [" u-1", "\x22,\r\n", "\n\x7b\x22a,b\x22: [null]\x7d", "User\u3000", "user_id"]

def blankRow : List String :=
  ["\u2028", "\x22\x22", "", "User", "user_id"]

theorem exists_parse_paddedRow : ∃ object : Json.Object,
    Json.parse (Utf8.encode "\x7b\x22a,b\x22: [null]\x7d") = .ok object.toValue ∧
      object.toJson.compact = "\x7b\x22a,b\x22:[null]\x7d" := by
  have parsed : (match Json.parse (Utf8.encode "\x7b\x22a,b\x22: [null]\x7d") with
      | .ok value => value.object?.isSome && value.json.compact == "\x7b\x22a,b\x22:[null]\x7d"
      | .error _ => false) = true := by decide +kernel
  split at parsed
  · rename_i value found
    simp only [Bool.and_eq_true, beq_iff_eq, Option.isSome_iff_exists] at parsed
    obtain ⟨⟨object, isObject⟩, compact⟩ := parsed
    obtain rfl := Json.Value.object?_eq_some_iff.mp isObject
    exact ⟨object, found, compact⟩
  · cases parsed

/-- The first row is found below its names, and what is wrong with the second one is told. -/
theorem records_paddedRow_blankRow :
    Named (paddedHeader.map Text.trim) ∧
      (∀ row ∈ [paddedRow, blankRow], row.length = paddedHeader.length) ∧
      ∃ record : Record,
        records (Csv.document ([paddedHeader, paddedRow, blankRow].map (List.map Utf8.encode))) =
          [.ok record, .error (.invalidIdentifier "")] ∧
        record.tenant = Tenant.default ∧ record.recordType.text = "User" ∧
        record.keyField = "user_id" ∧ record.id.text = "u-1" ∧
        record.attributes.toJson.compact = "\x7b\x22a,b\x22:[null]\x7d" := by
  have named : Named (paddedHeader.map Text.trim) := by
    constructor
    · decide
    · intro column
      cases column <;> decide
  have full : ∀ row ∈ [paddedRow, blankRow], row.length = paddedHeader.length := by
    decide
  obtain ⟨object, parsed, compact⟩ := exists_parse_paddedRow
  obtain ⟨first, others, spelled, below, same⟩ :=
    List.forall₂_cons_left_iff.mp (records_document named full)
  obtain ⟨second, after, blank, nothing, rfl⟩ := List.forall₂_cons_left_iff.mp below
  obtain rfl := List.forall₂_nil_left_iff.mp nothing
  have firstRow : Row.ofColumns (paddedHeader.map Text.trim) (paddedRow.map Text.trim) =
      ⟨"", "User", "user_id", "u-1", "\x7b\x22a,b\x22: [null]\x7d"⟩ := by decide
  have secondRow : Row.ofColumns (paddedHeader.map Text.trim) (blankRow.map Text.trim) =
      ⟨"", "User", "user_id", "", ""⟩ := by decide
  let record : Record :=
    ⟨Tenant.default, ⟨"User", by decide⟩, "user_id", ⟨"u-1", by decide⟩, object⟩
  have found : first = .ok record := by
    apply (spelled _).mpr
    rw [firstRow]
    exact .record (by decide) (.object (by decide) parsed) rfl rfl rfl rfl
  have missing : second = .error (.invalidIdentifier "") := by
    apply (blank _).mpr
    rw [secondRow]
    exact .noId (by decide) (.empty rfl) (by decide) rfl
  rw [found, missing] at same
  exact ⟨named, full, record, same, rfl, rfl, rfl, rfl, compact⟩

/-! ### Files as they are written

The names of the columns in their order, on a line of their own, and below it the rows, with all
their fields between quotes. Whether a row is a record, and which, does not depend on where it
stands in the file.
-/

def headerLine : List UInt8 :=
  Utf8.encode "tenant,type,key,id,attributes\n"

/-- The file with these rows. Their fields may be any bytes, and as many as they like. -/
def fileOf (rows : List (List (List UInt8))) : List UInt8 :=
  headerLine ++ Csv.document rows

def headerRow : Csv.Row :=
  ⟨Csv.Place.start, Column.all.map fun column => Utf8.encode column.name⟩

theorem rowsOf_headerLine (rest : List UInt8) :
    Csv.rowsOf (headerLine ++ rest) = headerRow :: (Csv.Reading.before ⟨1, 2, 30⟩).rows rest := by
  have bytes : headerLine =
      [0x74, 0x65, 0x6E, 0x61, 0x6E, 0x74, 0x2C, 0x74, 0x79, 0x70, 0x65, 0x2C, 0x6B, 0x65, 0x79,
        0x2C, 0x69, 0x64, 0x2C, 0x61, 0x74, 0x74, 0x72, 0x69, 0x62, 0x75, 0x74, 0x65, 0x73,
        0x0A] := by
    decide
  rw [bytes]
  rfl

theorem exists_records_fileOf {rows : List (List (List UInt8))}
    (nonempty : ∀ row ∈ rows, row ≠ []) :
    ∃ below : List Csv.Row, below.map Csv.Row.fields = rows ∧
      records (fileOf rows) = below.map (recordOfRow headerRow.names?) :=
  ⟨_, Csv.Reading.fields_rows_document nonempty _, records_of_rowsOf (rowsOf_headerLine _)⟩

theorem ReadsAs.of_fields {header csv other : Csv.Row} {row : Row} (h : ReadsAs header csv row)
    (same : csv.fields = other.fields) : ReadsAs header other row := by
  cases h with
  | byName headed texts named long => exact .byName headed (same.symm.trans texts) named long
  | inOrder unread texts long => exact .inOrder unread (same.symm.trans texts) long

theorem recordOfRow_of_fields {header csv other : Csv.Row} {record : Record}
    (made : recordOfRow header.names? csv = .ok record) (same : csv.fields = other.fields) :
    recordOfRow header.names? other = .ok record := by
  obtain ⟨row, readsAs, decodes⟩ := recordOfRow_eq_ok_iff.mp made
  exact recordOfRow_eq_ok_iff.mpr ⟨row, readsAs.of_fields same, decodes⟩

end NaturalKey.Seed
