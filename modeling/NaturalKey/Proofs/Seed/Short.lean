import NaturalKey.Proofs.Seed.Records
import NaturalKey.Proofs.Store.Run

/-!
Rows that end before their header does. A column that may be empty may be missing from the header,
but not from a row below its name: such a row is refused where it starts. It makes no difference to
the other rows, which come to what they do wherever they stand.
-/

set_option autoImplicit false

namespace NaturalKey.Seed

/-- The row with empty fields below the names that are left over. -/
def filled (header row : List String) : List String :=
  row ++ List.replicate (header.length - row.length) ""

theorem length_le_length_filled (header row : List String) :
    header.length ≤ (filled header row).length := by
  rw [filled, List.length_append, List.length_replicate]
  omega

theorem filled_of_le {header row : List String} (full : header.length ≤ row.length) :
    filled header row = row := by
  rw [filled, Nat.sub_eq_zero_of_le full, List.replicate_zero, List.append_nil]

theorem filled_ne_nil {header row : List String} (h : row ≠ []) : filled header row ≠ [] := by
  rw [filled]
  exact List.append_ne_nil_of_left_ne_nil h _

section Rows

variable {names : List String} {csv : Csv.Row} {texts : List String}

theorem recordOfRow_of_short (holds : csv.Holds texts) (named : Named names)
    (short : texts.length < names.length) :
    recordOfRow (some names) csv = .error (.csv (.endOfRow csv.place)) := by
  rw [recordOfRow, Row.read_of_short holds.texts named (by rwa [List.length_map])]

theorem recordOfRow_of_full (holds : csv.Holds texts) (named : Named names)
    (full : names.length ≤ texts.length) :
    recordOfRow (some names) csv = (Row.ofColumns names (texts.map Text.trim)).record := by
  have read : Row.read (some names) csv = .ok (Row.ofColumns names (texts.map Text.trim)) :=
    Row.read_some_eq_ok_iff.mpr ⟨_, holds.texts, by rwa [List.length_map], named, rfl⟩
  rw [recordOfRow, read]

end Rows

/-- What a row comes to below a header. A short one is refused in the place where it starts. -/
def outcomeAt (header : List String) (place : Csv.Place) (row : List String) :
    Except Fault Record :=
  if row.length < header.length then .error (.csv (.endOfRow place))
  else (Row.ofColumns (header.map Text.trim) (row.map Text.trim)).record

theorem recordOfRow_eq_outcomeAt {header : List String} (named : Named (header.map Text.trim))
    {csv : Csv.Row} {row : List String} (holds : csv.Holds row) :
    recordOfRow (some (header.map Text.trim)) csv = outcomeAt header csv.place row := by
  rw [outcomeAt]
  split
  · rename_i short
    exact recordOfRow_of_short holds named (by rwa [List.length_map])
  · rename_i long
    apply recordOfRow_of_full holds named
    rw [List.length_map]
    exact Nat.le_of_not_lt long

/-- Every row of a table that was written comes to its outcome, in the place where it was written.
-/
theorem records_document_eq {header : List String} {rows : List (List String)}
    (named : Named (header.map Text.trim)) (nonempty : ∀ row ∈ rows, row ≠ []) :
    records (Csv.document ((header :: rows).map (List.map Utf8.encode))) =
      rows.mapIdx fun index row =>
        outcomeAt header
          (Csv.placeAfter ((header :: rows.take index).map (List.map Utf8.encode))) row := by
  have written : ∀ fields ∈ (header :: rows).map (List.map Utf8.encode), fields ≠ [] := by
    intro fields member
    obtain ⟨row, among, rfl⟩ := List.mem_map.mp member
    apply mt List.map_eq_nil_iff.mp
    rcases List.mem_cons.mp among with rfl | among
    · exact named.ne_nil
    · exact nonempty row among
  let table := (header :: rows).map (List.map Utf8.encode)
  have split : Csv.rowsOf (Csv.document table) =
      ⟨Csv.placeAfter [], header.map Utf8.encode⟩ ::
        (rows.map (List.map Utf8.encode)).mapIdx fun index row =>
          ⟨Csv.placeAfter (table.take (index + 1)), row⟩ := by
    rw [Csv.rowsOf_document written]
    exact List.mapIdx_cons
  have headed : (Csv.Row.mk (Csv.placeAfter []) (header.map Utf8.encode)).Holds header := rfl
  rw [records_of_rowsOf split, headed.names?]
  apply List.ext_getElem?
  intro index
  simp only [List.getElem?_map, List.getElem?_mapIdx, Option.map_map]
  apply congrFun
  apply congrArg
  funext row
  have holds : (Csv.Row.mk (Csv.placeAfter (table.take (index + 1)))
      (row.map Utf8.encode)).Holds row := rfl
  have start : table.take (index + 1) = (header :: rows.take index).map (List.map Utf8.encode) :=
    List.map_take.symm
  rw [← start]
  exact recordOfRow_eq_outcomeAt named holds

/-- A row that ends before its header is refused, though it would come to something else with empty
fields at its end, and the place where it starts is told. All other rows come to the same as they do
when such fields are added where they are missing. -/
theorem records_short {header : List String} {rows : List (List String)}
    (named : Named (header.map Text.trim)) (nonempty : ∀ row ∈ rows, row ≠ []) :
    let table (rows : List (List String)) := (header :: rows).map (List.map Utf8.encode)
    let outcomes := records (Csv.document (table rows))
    let filledOutcomes := records (Csv.document (table (rows.map (filled header))))
    outcomes.length = rows.length ∧ filledOutcomes.length = rows.length ∧
      ∀ before row after, rows = before ++ row :: after → ∃ outcome,
        Decodes (.ofColumns (header.map Text.trim) ((filled header row).map Text.trim)) outcome ∧
        filledOutcomes[before.length]? = some outcome ∧
        outcomes[before.length]? =
          some (if row.length < header.length then
            .error (.csv (.endOfRow (Csv.placeAfter (table before)))) else outcome) := by
  intro table outcomes filledOutcomes
  have filledNonempty : ∀ row ∈ rows.map (filled header), row ≠ [] := by
    intro row member
    obtain ⟨short, among, rfl⟩ := List.mem_map.mp member
    exact filled_ne_nil (nonempty short among)
  have each : outcomes = _ := records_document_eq named nonempty
  have filledEach : filledOutcomes = _ := records_document_eq named filledNonempty
  refine ⟨by simp [each], by simp [filledEach], ?_⟩
  rintro before row after rfl
  have long : ¬(filled header row).length < header.length :=
    Nat.not_lt_of_le (length_le_length_filled header row)
  refine ⟨_, (record_eq_iff_decodes (bare_ofColumns _ _).trimmed).mp rfl, ?_, ?_⟩
  · rw [filledEach]
    simp [outcomeAt, long]
  · rw [each, List.getElem?_mapIdx, List.getElem?_append_right (Nat.le_refl _), Nat.sub_self,
      List.getElem?_cons_zero, Option.map_some, List.take_left, outcomeAt]
    split
    · rfl
    · rename_i full
      rw [filled_of_le (Nat.le_of_not_lt full)]

def attributesLast : List String :=
  ["id", "type", "key", "tenant", "attributes"]

def shortUser : List String :=
  ["u-1", "User", "user_id", ""]

theorem named_attributesLast : Named (attributesLast.map Text.trim) := by
  constructor
  · decide
  · intro column
    cases column <;> decide

theorem decodes_shortUser :
    Decodes (.ofColumns (attributesLast.map Text.trim)
      ((filled attributesLast shortUser).map Text.trim))
      (.ok (Record.user ⟨"u-1", by decide⟩)) := by
  have spelled : Row.ofColumns (attributesLast.map Text.trim)
      ((filled attributesLast shortUser).map Text.trim) = ⟨"", "User", "user_id", "u-1", ""⟩ := by
    decide
  rw [spelled]
  exact .record (by decide) (.empty rfl) rfl rfl rfl rfl

/-- The row of the user is refused, unless it has empty attributes. -/
theorem records_shortUser :
    let table (row : List String) := [attributesLast, row].map (List.map Utf8.encode)
    records (Csv.document (table shortUser)) = [.error (.csv (.endOfRow ⟨1, 2, 40⟩))] ∧
      records (Csv.document (table (shortUser ++ [""]))) =
        [.ok (Record.user ⟨"u-1", by decide⟩)] := by
  intro table
  have place : Csv.placeAfter ([attributesLast].map (List.map Utf8.encode)) = ⟨1, 2, 40⟩ := by
    decide +kernel
  constructor
  · have nonempty : ∀ row ∈ [shortUser], row ≠ [] := by decide
    have outcomes : records (Csv.document (table shortUser)) = _ :=
      records_document_eq named_attributesLast nonempty
    rw [outcomes, ← place]
    rfl
  · have nonempty : ∀ row ∈ [filled attributesLast shortUser], row ≠ [] := by decide
    have outcomes : records (Csv.document (table (shortUser ++ [""]))) = _ :=
      records_document_eq named_attributesLast nonempty
    have record := (record_eq_iff_decodes (bare_ofColumns _ _).trimmed).mpr decodes_shortUser
    rw [outcomes, ← record]
    rfl

/-- Of two users the second is the same whether or not the row of the first ends too early. -/
theorem records_short_users :
    let others := ["u-2", "User", "user_id", " ", "\x7b\x7d"]
    let table (rows : List (List String)) := (attributesLast :: rows).map (List.map Utf8.encode)
    let outcomes := records (Csv.document (table [shortUser, others]))
    let filledOutcomes :=
      records (Csv.document (table ([shortUser, others].map (filled attributesLast))))
    (Named (attributesLast.map Text.trim) ∧ ∀ row ∈ [shortUser, others], row ≠ []) ∧
      outcomes[0]? = some (.error (.csv (.endOfRow (Csv.placeAfter (table []))))) ∧
      filledOutcomes[0]? = some (.ok (Record.user ⟨"u-1", by decide⟩)) ∧
      outcomes[1]? = filledOutcomes[1]? ∧ outcomes.length = 2 := by
  intro others table outcomes filledOutcomes
  have nonempty : ∀ row ∈ [shortUser, others], row ≠ [] := by decide
  obtain ⟨length, -, rows⟩ := records_short named_attributesLast nonempty
  obtain ⟨first, decodes, filledFirst, refused⟩ := rows [] shortUser [others] rfl
  obtain ⟨second, -, filledSecond, same⟩ := rows [shortUser] others [] rfl
  have trimmed := (bare_ofColumns (attributesLast.map Text.trim)
    (filled attributesLast shortUser)).trimmed
  have user : first = .ok (Record.user ⟨"u-1", by decide⟩) :=
    ((record_eq_iff_decodes trimmed).mpr decodes).symm.trans
      ((record_eq_iff_decodes trimmed).mpr decodes_shortUser)
  rw [user] at filledFirst
  exact ⟨⟨named_attributesLast, nonempty⟩, refused, filledFirst, same.trans filledSecond.symm,
    length⟩

end NaturalKey.Seed
