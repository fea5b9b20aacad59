import NaturalKey.Proofs.Record.Written

/-!
Records written one after another into a sink that runs full. The sink holds as much as fits of what
it has been offered, in whatever pieces that came; a record is written if all of its lines fit, and
which of its bytes is the first that does not decides about the fault.
-/

set_option autoImplicit false

namespace NaturalKey.Sink

/-- Writes records one after another, also those after one that has failed. -/
def writeAll (sink : Sink) : List Record → List (Except Fault Unit) × Sink
  | [] => ([], sink)
  | record :: records =>
    let written := sink.write record
    let others := written.2.writeAll records
    (written.1 :: others.1, others.2)

def lines (record : Record) : List UInt8 :=
  Utf8.encode (record.prettyText ++ "\n")

theorem lines_eq (record : Record) : lines record = Utf8.encode record.prettyText ++ [0x0A] := by
  rw [lines, Utf8.encode_append]
  rfl

theorem length_prettyText_pos (record : Record) : 0 < (Utf8.encode record.prettyText).length := by
  rw [Record.prettyText, Record.toJson, Json.pretty, String.append_assoc, String.append_assoc,
    String.append_assoc, String.append_assoc, String.append_assoc, String.append_assoc,
    Utf8.encode_append, List.length_append]
  exact Nat.lt_add_right _ (by decide)

theorem writeAll_unlimited (taken : List UInt8) (records : List Record) :
    (Sink.mk none taken).writeAll records =
      (records.map fun _ => .ok (), ⟨none, taken ++ records.flatMap lines⟩) := by
  induction records generalizing taken with
  | nil => simp [writeAll]
  | cons record records ih =>
    rw [writeAll, write_of_unlimited rfl, ih, List.map_cons, List.flatMap_cons, List.append_assoc]
    rfl

/-! ### Pieces -/

/-- Takes pieces one after another, up to the first that does not fit. -/
def takeEach (sink : Sink) : List (List UInt8) → Bool × Sink
  | [] => (true, sink)
  | piece :: pieces =>
    match sink.take piece with
    | (true, sink) => sink.takeEach pieces
    | (false, sink) => (false, sink)

def writePieces (sink : Sink) (pieces : List (List UInt8)) : Except Fault Unit × Sink :=
  match sink.takeEach pieces with
  | (false, sink) => (.error (.document (.io .sinkFull)), sink)
  | (true, sink) =>
    match sink.take (Utf8.encode "\n") with
    | (false, sink) => (.error (.io .sinkFull), sink)
    | (true, sink) => (.ok (), sink)

/-- What comes after bytes that did not fit is lost with them. -/
theorem take_append (sink : Sink) (bytes more : List UInt8) :
    sink.take (bytes ++ more) =
      if (sink.take bytes).1 then (sink.take bytes).2.take more else sink.take bytes := by
  obtain ⟨room?, taken⟩ := sink
  cases room? with
  | none => simp [take]
  | some room =>
    simp only [take, List.length_append, List.take_append, decide_eq_true_eq]
    by_cases fits : bytes.length ≤ room
    · have both : bytes.length + more.length ≤ room ↔ more.length ≤ room - bytes.length := by omega
      rw [if_pos fits, decide_eq_decide.mpr both, Nat.sub_add_eq, List.take_of_length_le fits,
        List.append_assoc]
    · have full : room - bytes.length = 0 := by omega
      have beyond : ¬bytes.length + more.length ≤ room := by omega
      rw [if_neg fits, decide_eq_false beyond, decide_eq_false fits, Nat.sub_add_eq, full,
        Nat.zero_sub, List.take_zero, List.append_nil]

theorem takeEach_eq_take (sink : Sink) (pieces : List (List UInt8)) :
    sink.takeEach pieces = sink.take pieces.flatten := by
  induction pieces generalizing sink with
  | nil =>
    obtain ⟨room?, taken⟩ := sink
    cases room? <;> simp [takeEach, take]
  | cons piece pieces ih =>
    rw [takeEach, List.flatten_cons, take_append]
    split
    · rename_i taken
      rw [taken, if_pos rfl, ih]
    · rename_i taken
      rw [taken]
      rfl

/-- It makes no difference in which pieces the text of a record comes. -/
theorem writePieces_eq_write (sink : Sink) {record : Record} {pieces : List (List UInt8)}
    (h : pieces.flatten = Utf8.encode record.prettyText) :
    sink.writePieces pieces = sink.write record := by
  rw [writePieces, takeEach_eq_take, h]
  rfl

/-! ### A limit -/

/-- The sink with room for so many bytes after it has been offered these. -/
def offered (room : Nat) (bytes : List UInt8) : Sink :=
  ⟨some (room - bytes.length), bytes.take room⟩

theorem offered_nil (room : Nat) : offered room [] = limited room := by
  rw [offered, List.take_nil]
  rfl

theorem take_offered (room : Nat) (bytes more : List UInt8) :
    (offered room bytes).take more =
      (decide (more.length ≤ room - bytes.length), offered room (bytes ++ more)) := by
  rw [offered, offered, take, List.take_append, List.length_append, Nat.sub_add_eq]

theorem offered_append_of_full {room : Nat} {bytes : List UInt8} (full : room ≤ bytes.length)
    (more : List UInt8) : offered room (bytes ++ more) = offered room bytes := by
  have none : room - bytes.length = 0 := Nat.sub_eq_zero_of_le full
  rw [offered, offered, List.take_append, List.length_append, Nat.sub_add_eq, none, Nat.zero_sub,
    List.take_zero, List.append_nil]

/-- What comes of a record after these bytes: its lines fit, or all but the last byte of them, or
less. -/
def outcomeAfter (room : Nat) (bytes : List UInt8) (record : Record) : Except Fault Unit :=
  let last := bytes.length + (lines record).length
  if last ≤ room then .ok ()
  else if room + 1 = last then .error (.io .sinkFull)
  else .error (.document (.io .sinkFull))

theorem outcomeAfter_of_full {room : Nat} {bytes : List UInt8} (full : room < bytes.length)
    (record : Record) : outcomeAfter room bytes record = .error (.document (.io .sinkFull)) := by
  have positive : 0 < (lines record).length := by
    rw [lines_eq, List.length_append]
    exact Nat.lt_add_left _ Nat.one_pos
  rw [outcomeAfter]
  generalize (lines record).length = length at positive
  have notAll : ¬bytes.length + length ≤ room := by omega
  have shorter : room + 1 ≠ bytes.length + length := by omega
  exact (if_neg notAll).trans (if_neg shorter)

theorem write_offered (room : Nat) (bytes : List UInt8) (record : Record) :
    (offered room bytes).write record =
      (outcomeAfter room bytes record, offered room (bytes ++ lines record)) := by
  have positive := length_prettyText_pos record
  have lineBreak : Utf8.encode "\n" = [0x0A] := by decide
  rw [write, take_offered, outcomeAfter, lines_eq, List.length_append, List.length_singleton,
    ← List.append_assoc]
  generalize Utf8.encode record.prettyText = text at positive ⊢
  by_cases fits : text.length ≤ room - bytes.length
  · simp only [fits, decide_true, take_offered, lineBreak, List.length_append,
      List.length_singleton]
    by_cases ends : 1 ≤ room - (bytes.length + text.length)
    · have all : bytes.length + (text.length + 1) ≤ room := by omega
      rw [if_pos all, decide_eq_true ends]
    · have notAll : ¬bytes.length + (text.length + 1) ≤ room := by omega
      have short : room + 1 = bytes.length + (text.length + 1) := by omega
      rw [if_neg notAll, if_pos short, decide_eq_false ends]
  · have full : room ≤ (bytes ++ text).length := by
      rw [List.length_append]
      omega
    have notAll : ¬bytes.length + (text.length + 1) ≤ room := by omega
    have shorter : room + 1 ≠ bytes.length + (text.length + 1) := by omega
    rw [decide_eq_false fits, if_neg notAll, if_neg shorter, offered_append_of_full full]

/-- A whole run adds the lines of all records, and each of them comes to what it does after those
before it. -/
theorem writeAll_offered (room : Nat) (bytes : List UInt8) (records : List Record) :
    (offered room bytes).writeAll records =
      (records.mapIdx fun index record =>
          outcomeAfter room (bytes ++ (records.take index).flatMap lines) record,
        offered room (bytes ++ records.flatMap lines)) := by
  induction records generalizing bytes with
  | nil => simp [writeAll]
  | cons record records ih =>
    rw [writeAll, write_offered, ih, List.mapIdx_cons]
    simp

theorem writeAll_of_limited (room : Nat) (records : List Record) :
    (limited room).writeAll records =
      (records.mapIdx fun index record =>
          outcomeAfter room ((records.take index).flatMap lines) record,
        offered room (records.flatMap lines)) := by
  rw [← offered_nil, writeAll_offered]
  rfl

theorem flatMap_take_succ {records : List Record} {index : Nat} {record : Record}
    (h : records[index]? = some record) :
    (records.take (index + 1)).flatMap lines =
      (records.take index).flatMap lines ++ lines record := by
  rw [List.take_add_one, h, List.flatMap_append, Option.toList_some, List.flatMap_singleton]

theorem length_flatMap_take_le (records : List Record) {count more : Nat} (le : count ≤ more) :
    ((records.take count).flatMap lines).length ≤ ((records.take more).flatMap lines).length := by
  obtain ⟨rest, split⟩ := List.take_prefix_take_left le (l := records)
  rw [← split, List.flatMap_append, List.length_append]
  exact Nat.le_add_right _ _

/-- What a sink with a limit holds after a run is what fits of all that is written without one. A
record is written if its lines and those of the records before it fit. If only its line break does
not, that is one fault; otherwise it is another one, which all records after a failure come to. They
add nothing. None of this depends on the pieces in which a text comes. -/
theorem writeAll_limited (records : List Record) (room : Nat) :
    let whole := records.flatMap lines
    let total (count : Nat) := ((records.take count).flatMap lines).length
    let outcomes := ((limited room).writeAll records).1
    let sinkAfter (count : Nat) := ((limited room).writeAll (records.take count)).2
    unlimited.writeAll records = (records.map fun _ => .ok (), ⟨none, whole⟩) ∧
    ((limited room).writeAll records).2.taken = whole.take (min room whole.length) ∧
    outcomes.length = records.length ∧
    (∀ index record, records[index]? = some record →
      total (index + 1) = total index + (Utf8.encode record.prettyText).length + 1 ∧
      outcomes[index]? = some (
        if total (index + 1) ≤ room then .ok ()
        else if room + 1 = total (index + 1) then .error (.io .sinkFull)
        else .error (.document (.io .sinkFull))) ∧
      (room < total (index + 1) → ∀ later, index < later → later < records.length →
        outcomes[later]? = some (.error (.document (.io .sinkFull))) ∧
        sinkAfter (later + 1) = sinkAfter (index + 1))) ∧
    ∀ (sink : Sink) (record : Record) (pieces : List (List UInt8)),
      pieces.flatten = Utf8.encode record.prettyText →
        sink.writePieces pieces = sink.write record := by
  intro whole total outcomes sinkAfter
  have outcomeAt {index : Nat} {record : Record} (h : records[index]? = some record) :
      outcomes[index]? = some (outcomeAfter room ((records.take index).flatMap lines) record) := by
    simp [outcomes, writeAll_of_limited, h]
  have step {index : Nat} {record : Record} (h : records[index]? = some record) :
      total (index + 1) = total index + (lines record).length := by
    simp only [total, flatMap_take_succ h, List.length_append]
  refine ⟨writeAll_unlimited [] records, ?_, ?_, ?_, ?_⟩
  · rw [writeAll_of_limited, offered, ← List.take_eq_take_min]
  · simp [outcomes, writeAll_of_limited]
  · intro index record found
    refine ⟨?_, ?_, ?_⟩
    · rw [step found, lines_eq, List.length_append, List.length_singleton, Nat.add_assoc]
    · rw [outcomeAt found, step found]
      rfl
    · intro failed later after among
      have other := List.getElem?_eq_getElem among
      have full : room < total later :=
        Nat.lt_of_lt_of_le failed (length_flatMap_take_le records after)
      constructor
      · rw [outcomeAt other, outcomeAfter_of_full full]
      · obtain ⟨rest, split⟩ := List.take_prefix_take_left
          (Nat.le_of_lt (Nat.succ_lt_succ after)) (l := records)
        simp only [sinkAfter, writeAll_of_limited]
        rw [← split, List.flatMap_append, offered_append_of_full (Nat.le_of_lt failed)]
  · intro sink record pieces text
    exact writePieces_eq_write sink text

end NaturalKey.Sink
