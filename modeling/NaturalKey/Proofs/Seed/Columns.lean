import NaturalKey.Proofs.Outcome
import NaturalKey.Seed

/-!
Rows by the names of their columns. A row is read if each of the names has a text, the columns that
are required are named and none that is known is named twice; then each column has the text below
its name, wherever it stands and whatever other columns there are.
-/

set_option autoImplicit false

namespace NaturalKey.Seed

/-- The required columns are named, and no known one is named twice. -/
structure Named (names : List String) : Prop where
  required : ∀ column ∈ Column.required, column.name ∈ names
  once : ∀ column : Column, names.count column.name ≤ 1

def textIn? (names texts : List String) (column : Column) : Option String :=
  ((names.zip texts).find? fun field => field.1 == column.name).map Prod.snd

def Row.ofTexts (text : Column → String) : Row :=
  ⟨text .tenant, text .recordType, text .key, text .id, text .attributes⟩

/-- The texts of a row by the names of their columns. A column that is not there reads as empty. -/
def Row.ofColumns (names texts : List String) : Row :=
  .ofTexts fun column => (textIn? names texts column).getD ""

namespace Column

theorem ofName?_name (column : Column) : ofName? column.name = some column := by
  cases column <;> decide

theorem ofName?_eq_some_iff {name : String} {column : Column} :
    ofName? name = some column ↔ name = column.name := by
  constructor
  · intro found
    rw [ofName?] at found
    have same := List.find?_some found
    exact (beq_iff_eq.mp same).symm
  · rintro rfl
    exact column.ofName?_name

theorem ne_name_of_ofName? {name : String} (unknown : ofName? name = none) (column : Column) :
    name ≠ column.name := by
  intro same
  rw [ofName?_eq_some_iff.mpr same] at unknown
  cases unknown

theorem name_injective {a b : Column} (h : a.name = b.name) : a = b := by
  have same := congrArg ofName? h
  rw [ofName?_name, ofName?_name] at same
  exact Option.some.inj same

end Column

theorem Fields.get?_cons (column other : Column) (text : String) (fields : Fields) :
    Fields.get? ((column, text) :: fields) other =
      if column = other then some text else fields.get? other := by
  rw [get?, List.find?_cons]
  by_cases same : column = other
  · simp [same]
  · have differ : (column == other) = false := beq_false_of_ne same
    simp only [differ, if_neg same, get?]

theorem textIn?_cons (name text : String) (names texts : List String) (column : Column) :
    textIn? (name :: names) (text :: texts) column =
      if name = column.name then some text else textIn? names texts column := by
  rw [textIn?, List.zip_cons_cons, List.find?_cons]
  by_cases same : name = column.name
  · simp [same]
  · have differ : (name == column.name) = false := beq_false_of_ne same
    simp only [differ, if_neg same, textIn?]

theorem textIn?_map (f : String → String) (names texts : List String) (column : Column) :
    textIn? names (texts.map f) column = (textIn? names texts column).map f := by
  unfold textIn?
  rw [List.zip_map_right, List.find?_map, Option.map_map, Option.map_map]
  rfl

theorem isSome_textIn?_iff {names texts : List String} (long : names.length ≤ texts.length)
    (column : Column) : (textIn? names texts column).isSome = true ↔ column.name ∈ names := by
  induction names generalizing texts with
  | nil => simp [textIn?]
  | cons name names ih =>
    cases texts with
    | nil => simp at long
    | cons text texts =>
      rw [textIn?_cons, List.mem_cons]
      by_cases same : name = column.name
      · simp [same]
      · rw [if_neg same, ih (Nat.le_of_succ_le_succ long)]
        simp [Ne.symm same]

/-! ### Walking along the names -/

namespace Row

variable {place : Csv.Place} {fields found : Fields} {names texts : List String}

/-- How often a column is named, those names counted that have been passed. -/
def uses (fields : Fields) (names : List String) (column : Column) : Nat :=
  names.count column.name + if (fields.get? column).isSome then 1 else 0

/-- No column that has been passed is named again, and none is named twice. -/
def Fresh (fields : Fields) (names : List String) : Prop :=
  ∀ column : Column, uses fields names column ≤ 1

theorem fresh_nil_iff : Fresh [] names ↔ ∀ column : Column, names.count column.name ≤ 1 :=
  Iff.rfl

theorem uses_cons {column : Column} (missing : (fields.get? column).isSome = false) (text : String)
    (other : Column) :
    uses ((column, text) :: fields) names other = uses fields (column.name :: names) other := by
  rw [uses, uses, Fields.get?_cons]
  by_cases same : column = other
  · subst other
    rw [List.count_cons_self, missing, if_pos rfl]
    rfl
  · rw [List.count_cons_of_ne (mt Column.name_injective same), if_neg same]

theorem fresh_cons_iff (column : Column) (text : String) :
    Fresh fields (column.name :: names) ↔
      (fields.get? column).isSome = false ∧ Fresh ((column, text) :: fields) names := by
  constructor
  · intro fresh
    have missing : (fields.get? column).isSome = false := by
      rw [← Bool.not_eq_true]
      intro passed
      have once := fresh column
      rw [uses, List.count_cons_self, if_pos passed] at once
      omega
    refine ⟨missing, ?_⟩
    intro other
    rw [uses_cons missing]
    exact fresh other
  · rintro ⟨missing, fresh⟩ other
    rw [← uses_cons missing text]
    exact fresh other

theorem fresh_cons_of_unknown {name : String} (unknown : Column.ofName? name = none) :
    Fresh fields (name :: names) ↔ Fresh fields names := by
  apply forall_congr'
  intro column
  rw [uses, List.count_cons_of_ne (Column.ne_name_of_ofName? unknown column), uses]

theorem fieldsByName_nil_ne_ok (name : String) :
    fieldsByName place fields (name :: names) [] ≠ .ok found := by
  intro read
  rw [fieldsByName.eq_def] at read
  dsimp only at read
  split at read
  · split at read <;> cases read
  · cases read

theorem fieldsByName_cons_eq_ok_iff (column : Column) (text : String) :
    fieldsByName place fields (column.name :: names) (text :: texts) = .ok found ↔
      (fields.get? column).isSome = false ∧
        fieldsByName place ((column, text) :: fields) names texts = .ok found := by
  rw [fieldsByName, Column.ofName?_name]
  cases passed : (fields.get? column).isSome with
  | true => simp [passed]
  | false => simp [passed]

theorem fieldsByName_cons_of_unknown {name : String} (unknown : Column.ofName? name = none)
    (text : String) :
    fieldsByName place fields (name :: names) (text :: texts) =
      fieldsByName place fields names texts := by
  rw [fieldsByName, unknown]

/-- The walk comes to an end if there are texts enough and no column comes twice. -/
theorem exists_fieldsByName_iff :
    (∃ found, fieldsByName place fields names texts = .ok found) ↔
      names.length ≤ texts.length ∧ Fresh fields names := by
  induction names generalizing fields texts with
  | nil =>
    refine ⟨fun _ => ⟨Nat.zero_le _, ?_⟩, fun _ => ⟨fields, rfl⟩⟩
    intro column
    rw [uses, List.count_nil]
    split <;> decide
  | cons name names ih =>
    cases texts with
    | nil =>
      constructor
      · rintro ⟨found, read⟩
        exact absurd read (fieldsByName_nil_ne_ok name)
      · rintro ⟨long, -⟩
        cases long
    | cons text texts =>
      rw [List.length_cons, List.length_cons, Nat.add_le_add_iff_right]
      cases known : Column.ofName? name with
      | none =>
        rw [fieldsByName_cons_of_unknown known, fresh_cons_of_unknown known]
        exact ih
      | some column =>
        obtain rfl := Column.ofName?_eq_some_iff.mp known
        simp only [fieldsByName_cons_eq_ok_iff, fresh_cons_iff column text, exists_and_left, ih]
        exact and_left_comm

/-- Where the texts end before the names do, the row has ended too early; nothing else is noticed.
-/
theorem fieldsByName_of_short (fresh : Fresh fields names) (short : texts.length < names.length) :
    fieldsByName place fields names texts = .error (.endOfRow place) := by
  induction names generalizing fields texts with
  | nil => cases short
  | cons name names ih =>
    cases known : Column.ofName? name with
    | none =>
      have others := (fresh_cons_of_unknown known).mp fresh
      cases texts with
      | nil => rw [fieldsByName.eq_def]; simp only [known]
      | cons text texts =>
        rw [fieldsByName_cons_of_unknown known, ih others (Nat.lt_of_succ_lt_succ short)]
    | some column =>
      obtain rfl := Column.ofName?_eq_some_iff.mp known
      cases texts with
      | nil =>
        obtain ⟨missing, -⟩ := (fresh_cons_iff column "").mp fresh
        rw [fieldsByName.eq_def]
        simp [known, missing]
      | cons text texts =>
        obtain ⟨missing, others⟩ := (fresh_cons_iff column text).mp fresh
        rw [fieldsByName, known]
        simp only [missing]
        exact ih others (Nat.lt_of_succ_lt_succ short)

/-- After the walk each column has the text that it had, or else the one below its name. -/
theorem get?_of_fieldsByName (read : fieldsByName place fields names texts = .ok found)
    (column : Column) :
    found.get? column = (fields.get? column).or (textIn? names texts column) := by
  induction names generalizing fields texts with
  | nil =>
    cases read
    exact (Option.or_none).symm
  | cons name names ih =>
    cases texts with
    | nil => exact absurd read (fieldsByName_nil_ne_ok name)
    | cons text texts =>
      rw [textIn?_cons]
      cases known : Column.ofName? name with
      | none =>
        rw [fieldsByName_cons_of_unknown known] at read
        rw [if_neg (Column.ne_name_of_ofName? known column)]
        exact ih read
      | some other =>
        obtain rfl := Column.ofName?_eq_some_iff.mp known
        obtain ⟨passed, rest⟩ := (fieldsByName_cons_eq_ok_iff other text).mp read
        rw [ih rest, Fields.get?_cons]
        by_cases same : other = column
        · subst other
          have missing := Option.isNone_iff_eq_none.mp (Option.isSome_eq_false_iff.mp passed)
          rw [if_pos rfl, if_pos rfl, missing]
          rfl
        · rw [if_neg same, if_neg (mt Column.name_injective same)]

theorem ofFields_eq_ok_iff {row : Row} :
    ofFields place fields = .ok row ↔
      (∀ column ∈ Column.required, (fields.get? column).isSome = true) ∧
        row = .ofTexts fun column => (fields.get? column).getD "" := by
  rw [ofFields]
  split
  · rename_i column missing
    have absent := List.find?_some missing
    constructor
    · intro made
      cases made
    · rintro ⟨required, -⟩
      have present := required column (List.mem_of_find?_eq_some missing)
      rw [Option.isNone_iff_eq_none.mp absent] at present
      cases present
  · rename_i complete
    have required := List.find?_eq_none.mp complete
    constructor
    · intro made
      cases made
      refine ⟨?_, rfl⟩
      intro column member
      exact Option.isSome_iff_ne_none.mpr (mt Option.isNone_iff_eq_none.mpr
        (required column member))
    · rintro ⟨-, rfl⟩
      rfl

theorem ofFields_eq_ok_iff_of_fieldsByName {row : Row}
    (walked : fieldsByName place [] names texts = .ok found)
    (long : names.length ≤ texts.length) :
    ofFields place found = .ok row ↔
      (∀ column ∈ Column.required, column.name ∈ names) ∧ row = ofColumns names texts := by
  have below (column : Column) : found.get? column = textIn? names texts column :=
    get?_of_fieldsByName walked column
  rw [ofFields_eq_ok_iff, ofColumns]
  simp only [below, isSome_textIn?_iff long]

/-- By its names a row is read if there is a text for each and they name what they should. -/
theorem read_some_eq_ok_iff {csv : Csv.Row} {row : Row} :
    Row.read (some names) csv = .ok row ↔
      ∃ texts, csv.texts = .ok texts ∧ names.length ≤ texts.length ∧ Named names ∧
        row = ofColumns names texts := by
  simp only [Row.read]
  rw [bind_eq_ok]
  apply exists_congr
  intro texts
  apply and_congr_right
  intro _
  rw [bind_eq_ok]
  constructor
  · rintro ⟨found, walked, made⟩
    obtain ⟨long, fresh⟩ := exists_fieldsByName_iff.mp ⟨found, walked⟩
    obtain ⟨required, same⟩ := (ofFields_eq_ok_iff_of_fieldsByName walked long).mp made
    exact ⟨long, ⟨required, fresh_nil_iff.mp fresh⟩, same⟩
  · rintro ⟨long, named, same⟩
    obtain ⟨found, walked⟩ := exists_fieldsByName_iff.mpr ⟨long, fresh_nil_iff.mpr named.once⟩
    have made := (ofFields_eq_ok_iff_of_fieldsByName walked long).mpr ⟨named.required, same⟩
    exact ⟨found, walked, made⟩

theorem read_of_short {csv : Csv.Row} (read : csv.texts = .ok texts) (named : Named names)
    (short : texts.length < names.length) :
    Row.read (some names) csv = .error (.endOfRow csv.place) := by
  have ended : fieldsByName csv.place [] names texts = .error (.endOfRow csv.place) :=
    fieldsByName_of_short (fresh_nil_iff.mpr named.once) short
  simp only [Row.read, read]
  change fieldsByName csv.place [] names texts >>= ofFields csv.place = _
  rw [ended]
  rfl

theorem ofPositions_eq_ok_iff {row : Row} :
    ofPositions place texts = .ok row ↔
      4 ≤ texts.length ∧ row = ofColumns (Column.all.map Column.name) texts := by
  match texts with
  | [] | [_] | [_, _] | [_, _, _] => simp [ofPositions]
  | [tenant, recordType, key, id] =>
    have long : 4 ≤ [tenant, recordType, key, id].length := Nat.le_refl 4
    rw [ofPositions, Except.ok.injEq, eq_comm, and_iff_right long]
    rfl
  | tenant :: recordType :: key :: id :: attributes :: rest =>
    have long : 4 ≤ (tenant :: recordType :: key :: id :: attributes :: rest).length :=
      Nat.le_add_left 4 _
    rw [ofPositions, Except.ok.injEq, eq_comm, and_iff_right long]
    rfl

theorem read_none_eq_ok_iff {csv : Csv.Row} {row : Row} :
    Row.read none csv = .ok row ↔
      ∃ texts, csv.texts = .ok texts ∧ 4 ≤ texts.length ∧
        row = ofColumns (Column.all.map Column.name) texts := by
  simp only [Row.read]
  rw [bind_eq_ok]
  simp only [ofPositions_eq_ok_iff]

end Row

end NaturalKey.Seed
