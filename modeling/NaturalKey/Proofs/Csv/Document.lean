import NaturalKey.Csv

/-!
Tables as texts. Every field stands between quotes, and a quote in it is written twice, so it may
hold commas, line breaks and quotes. Reading such a text gives the fields back, whatever bytes they
hold, and each row has the place at which it was written.
-/

set_option autoImplicit false

namespace NaturalKey.Csv

/-- The bytes of a field as they stand between its quotes. -/
def escaped (field : List UInt8) : List UInt8 :=
  field.flatMap fun b => if b = 0x22 then [0x22, 0x22] else [b]

def quoted (field : List UInt8) : List UInt8 :=
  0x22 :: (escaped field ++ [0x22])

def line : List (List UInt8) → List UInt8
  | [] => [0x0A]
  | [field] => quoted field ++ [0x0A]
  | field :: fields => quoted field ++ 0x2C :: line fields

theorem line_singleton (field : List UInt8) : line [field] = quoted field ++ [0x0A] := rfl

theorem line_cons_cons (field next : List UInt8) (others : List (List UInt8)) :
    line (field :: next :: others) = quoted field ++ 0x2C :: line (next :: others) := rfl

def document (rows : List (List (List UInt8))) : List UInt8 :=
  rows.flatMap line

/-! ### Places -/

def Place.past (place : Place) (bytes : List UInt8) : Place :=
  ⟨place.record, place.line + bytes.count 0x0A, place.byte + bytes.length⟩

theorem Place.past_past (place : Place) (bytes more : List UInt8) :
    (place.past bytes).past more = place.past (bytes ++ more) := by
  simp only [past, List.count_append, List.length_append, Nat.add_assoc]

def Place.next (place : Place) : Place :=
  { place with record := place.record + 1 }

/-- The place of the row after these: it is counted as records, as line breaks and as bytes. -/
def placeAfter (rows : List (List (List UInt8))) : Place :=
  ⟨rows.length, 1 + (document rows).count 0x0A, (document rows).length⟩

theorem placeAfter_concat (rows : List (List (List UInt8))) (row : List (List UInt8)) :
    placeAfter (rows ++ [row]) = ((placeAfter rows).past (line row)).next := by
  have text : document (rows ++ [row]) = document rows ++ line row := by
    rw [document, List.flatMap_append, List.flatMap_singleton, document]
  simp only [placeAfter, text, Place.past, Place.next, List.length_append, List.count_append,
    List.length_singleton, Nat.add_assoc]

/-! ### Reading -/

namespace Reading

variable {mode : Mode}

theorem advance_eq (reading : Reading) (b : UInt8) :
    reading.advance b = { reading with here := reading.here.past [b] } := by
  rw [advance, Place.past, List.count_singleton]
  by_cases lineBreak : b = 0x0A
  · subst b
    rfl
  · have other : (b == 0x0A) = false := beq_false_of_ne lineBreak
    simp only [if_neg lineBreak, other]
    rfl

theorem rows_cons_of_none {reading next : Reading} {b : UInt8} (h : reading.step b = (none, next))
    (rest : List UInt8) : reading.rows (b :: rest) = next.rows rest := by
  simp only [rows, h]

theorem rows_cons_of_some {reading next : Reading} {b : UInt8} {row : Row}
    (h : reading.step b = (some row, next)) (rest : List UInt8) :
    reading.rows (b :: rest) = row :: next.rows rest := by
  simp only [rows, h]

section Steps

variable (fields : List (List UInt8)) (start here : Place) (taken rest : List UInt8)

theorem rows_open (opens : mode = .rowStart ∨ mode = .fieldStart) :
    (Reading.mk mode [] fields start here).rows (0x22 :: rest) =
      (Reading.mk .quoted [] fields start (here.past [0x22])).rows rest := by
  rcases opens with rfl | rfl <;> exact rows_cons_of_none (by rw [step, advance_eq]; rfl) rest

theorem rows_take {b : UInt8} (ordinary : b ≠ 0x22) :
    (Reading.mk .quoted taken fields start here).rows (b :: rest) =
      (Reading.mk .quoted (b :: taken) fields start (here.past [b])).rows rest := by
  apply rows_cons_of_none
  simp only [step, advance_eq, if_neg ordinary, take]

theorem rows_close :
    (Reading.mk .quoted taken fields start here).rows (0x22 :: rest) =
      (Reading.mk .quoteRead taken fields start (here.past [0x22])).rows rest :=
  rows_cons_of_none (by rw [step, advance_eq]; rfl) rest

theorem rows_reopen :
    (Reading.mk .quoteRead taken fields start here).rows (0x22 :: rest) =
      (Reading.mk .quoted (0x22 :: taken) fields start (here.past [0x22])).rows rest :=
  rows_cons_of_none (by rw [step, advance_eq]; rfl) rest

theorem rows_comma :
    (Reading.mk .quoteRead taken fields start here).rows (0x2C :: rest) =
      (Reading.mk .fieldStart [] (taken.reverse :: fields) start (here.past [0x2C])).rows rest :=
  rows_cons_of_none (by rw [step, advance_eq]; rfl) rest

theorem rows_lineBreak :
    (Reading.mk .quoteRead taken fields start here).rows (0x0A :: rest) =
      ⟨start, (taken.reverse :: fields).reverse⟩ ::
        (Reading.before (here.past [0x0A]).next).rows rest :=
  rows_cons_of_some (by rw [step, advance_eq]; rfl) rest

end Steps

/-- Between quotes every byte belongs to the field, and two quotes are one byte of it. -/
theorem rows_escaped (fields : List (List UInt8)) (start here : Place)
    (taken field rest : List UInt8) :
    (Reading.mk .quoted taken fields start here).rows (escaped field ++ rest) =
      (Reading.mk .quoted (field.reverse ++ taken) fields start (here.past (escaped field))).rows
        rest := by
  induction field generalizing taken here with
  | nil => rfl
  | cons b field ih =>
    rw [List.reverse_cons, List.append_assoc, List.singleton_append, escaped, List.flatMap_cons,
      ← escaped]
    by_cases quote : b = 0x22
    · subst b
      rw [if_pos rfl, List.cons_append, List.singleton_append, List.cons_append, List.cons_append,
        rows_close, rows_reopen, ih, Place.past_past, Place.past_past]
      rfl
    · rw [if_neg quote, List.singleton_append, List.cons_append, rows_take _ _ _ _ _ quote, ih,
        Place.past_past]
      rfl

theorem rows_quoted (opens : mode = .rowStart ∨ mode = .fieldStart)
    (fields : List (List UInt8)) (start here : Place) (field rest : List UInt8) :
    (Reading.mk mode [] fields start here).rows (quoted field ++ rest) =
      (Reading.mk .quoteRead field.reverse fields start (here.past (quoted field))).rows rest := by
  rw [quoted, List.cons_append, List.append_assoc, rows_open _ _ _ _ opens, rows_escaped,
    List.singleton_append, rows_close, List.append_nil, Place.past_past, Place.past_past]
  rfl

theorem rows_line (opens : mode = .rowStart ∨ mode = .fieldStart) {row : List (List UInt8)}
    (nonempty : row ≠ []) (fields : List (List UInt8)) (start here : Place) (rest : List UInt8) :
    (Reading.mk mode [] fields start here).rows (line row ++ rest) =
      ⟨start, fields.reverse ++ row⟩ :: (Reading.before (here.past (line row)).next).rows rest := by
  induction row generalizing mode fields here with
  | nil => exact absurd rfl nonempty
  | cons field others ih =>
    cases others with
    | nil =>
      rw [line_singleton, List.append_assoc, List.singleton_append, rows_quoted opens,
        rows_lineBreak, List.reverse_reverse, List.reverse_cons, Place.past_past]
    | cons next others =>
      rw [line_cons_cons, List.append_assoc, List.cons_append, rows_quoted opens, rows_comma,
        List.reverse_reverse, ih (.inr rfl) (List.cons_ne_nil _ _), List.reverse_cons,
        List.append_assoc, List.singleton_append, Place.past_past, Place.past_past,
        List.singleton_append]

/-- After the rows that have been read the others are read as they were written, each of them where
it starts. -/
theorem rows_document {rows : List (List (List UInt8))} (nonempty : ∀ row ∈ rows, row ≠ [])
    (read : List (List (List UInt8))) :
    (Reading.before (placeAfter read)).rows (document rows) =
      rows.mapIdx fun index row => ⟨placeAfter (read ++ rows.take index), row⟩ := by
  induction rows generalizing read with
  | nil => rfl
  | cons row rows ih =>
    have first : document (row :: rows) = line row ++ document rows := rfl
    rw [first, before, rows_line (.inl rfl) (nonempty row List.mem_cons_self),
      ← placeAfter_concat, ih fun other member => nonempty other (List.mem_cons_of_mem _ member),
      List.mapIdx_cons]
    simp

/-- Wherever rows stand in a text, they are read as they were written. -/
theorem fields_rows_document {rows : List (List (List UInt8))} (nonempty : ∀ row ∈ rows, row ≠ [])
    (place : Place) : ((Reading.before place).rows (document rows)).map Row.fields = rows := by
  induction rows generalizing place with
  | nil => rfl
  | cons row rows ih =>
    have first : document (row :: rows) = line row ++ document rows := rfl
    rw [first, before, rows_line (.inl rfl) (nonempty row List.mem_cons_self), List.map_cons,
      ih fun other member => nonempty other (List.mem_cons_of_mem _ member)]
    rfl

end Reading

theorem exists_document_cons {row : List (List UInt8)} (nonempty : row ≠ [])
    (rows : List (List (List UInt8))) : ∃ rest, document (row :: rows) = 0x22 :: rest := by
  match row with
  | [field] => exact ⟨_, rfl⟩
  | field :: next :: others => exact ⟨_, rfl⟩

theorem rowsOf_document {rows : List (List (List UInt8))} (nonempty : ∀ row ∈ rows, row ≠ []) :
    rowsOf (document rows) = rows.mapIdx fun index row => ⟨placeAfter (rows.take index), row⟩ := by
  cases rows with
  | nil => rfl
  | cons row rows =>
    obtain ⟨rest, text⟩ := exists_document_cons (nonempty row List.mem_cons_self) rows
    have noMark : rowsOf (document (row :: rows)) =
        (Reading.before (placeAfter [])).rows (document (row :: rows)) := by
      rw [text]
      rfl
    rw [noMark, Reading.rows_document nonempty]
    rfl

theorem fields_rowsOf_document {rows : List (List (List UInt8))}
    (nonempty : ∀ row ∈ rows, row ≠ []) : (rowsOf (document rows)).map Row.fields = rows := by
  rw [rowsOf_document nonempty]
  apply List.ext_getElem?
  intro index
  rw [List.getElem?_map, List.getElem?_mapIdx, Option.map_map]
  exact Option.map_id_apply

end NaturalKey.Csv
