import NaturalKey.Proofs.Record.Nesting
import NaturalKey.Proofs.Store.Rows
import NaturalKey.Record.Document

/-!
Records that are written somewhere can be read from there: from what a sink has taken, over several
lines, and from what a store keeps under the key of the record, on one line.
-/

set_option autoImplicit false

namespace NaturalKey

theorem Sink.write_of_unlimited {sink : Sink} (h : sink.room? = none) (record : Record) :
    sink.write record =
      (.ok (), ⟨none, sink.taken ++ Utf8.encode (record.prettyText ++ "\n")⟩) := by
  have all : ∀ bytes, sink.take bytes = (true, ⟨none, sink.taken ++ bytes⟩) := by
    intro bytes
    rw [take, h]
  rw [write, all, Utf8.encode_append, ← List.append_assoc]
  rfl

theorem Sink.write_unlimited (record : Record) :
    Sink.unlimited.write record = (.ok (), ⟨none, Utf8.encode (record.prettyText ++ "\n")⟩) := by
  rw [write_of_unlimited rfl, unlimited, List.nil_append]

theorem KeyedStore.get?_of_insert {store next : KeyedStore} {record : Record}
    (storable : Storable record) (h : insert store record = .ok next) :
    next.texts.get? (keyBytes record) = some (Utf8.encode record.text) := by
  rw [insert_of_storable storable] at h
  cases h
  apply (getEntry?_eq_some_iff (SortedMap.ascending _)).mpr
  rw [SortedMap.entries_put, mem_putEntry_iff store.texts.ascending]
  exact .inl ⟨rfl, rfl⟩

namespace Record

/-- A record is read back as it was from what it is written as, over several lines with a line break
at the end, which is what a sink takes, and on one line, which is what a store keeps. Its numbers
are integers and it is not nested too deep; what its texts contain does not matter. -/
theorem parse_written {record : Record} (shallow : record.Shallow) (integral : record.Integral) :
    let lines := Utf8.encode (record.prettyText ++ "\n")
    let line := Utf8.encode record.text
    (parse lines = .ok record ∧ ∀ sink : Sink, sink.room? = none →
      sink.write record = (.ok (), ⟨none, sink.taken ++ lines⟩)) ∧
    parse line = .ok record ∧ ∀ store : KeyedStore, KeyedStore.Storable record →
      ∃ next, store.insert record = .ok next ∧
        next.texts.get? (KeyedStore.keyBytes record) = some line := by
  intro lines line
  refine ⟨⟨?_, ?_⟩, ?_, ?_⟩
  · have read := parse_prettyText shallow
    rwa [reread_of_integral integral] at read
  · intro sink unlimited
    exact sink.write_of_unlimited unlimited record
  · exact parse_text_of_integral shallow integral
  · intro store storable
    have inserted := KeyedStore.insert_of_storable storable store
    exact ⟨_, inserted, KeyedStore.get?_of_insert storable inserted⟩

/-- A record with as many levels as can be read, with the least and the largest integer, with empty
brackets, and with everything in its texts that has to be spelled out. -/
def knotty : Record :=
  (user ⟨"\x22\\/", by decide⟩).withAttribute "\x00\x1f\n\u2028" <| .array [
    ⟨.nest 123, Json.canonical_nest 123⟩,
    .number (.integer (-0x8000000000000000) (by decide)),
    .number (.integer 0xffffffffffffffff (by decide)),
    Json.Object.empty.toValue,
    .string "\t\x7f\u00e9"]

theorem parse_written_knotty :
    knotty.Shallow ∧ knotty.Integral ∧ KeyedStore.Storable knotty ∧
      (∃ text, Sink.unlimited.write knotty = (.ok (), ⟨none, text⟩) ∧ parse text = .ok knotty) ∧
      ∃ next text, KeyedStore.empty.insert knotty = .ok next ∧
        next.texts.get? (KeyedStore.keyBytes knotty) = some text ∧ parse text = .ok knotty := by
  have shallow : knotty.Shallow := by decide +kernel
  have integral : knotty.Integral :=
    ⟨⟨Json.integral_nest 123, trivial, trivial, trivial, trivial, trivial⟩, trivial⟩
  have storable : KeyedStore.Storable knotty := by
    simp only [KeyedStore.Storable]
    decide
  obtain ⟨⟨readLines, written⟩, readLine, kept⟩ := parse_written shallow integral
  obtain ⟨next, inserted, found⟩ := kept .empty storable
  have taken := written Sink.unlimited rfl
  have nothing : Sink.unlimited.taken = [] := rfl
  rw [nothing, List.nil_append] at taken
  exact ⟨shallow, integral, storable, ⟨_, taken, readLines⟩, next, _, inserted, found, readLine⟩

end Record

end NaturalKey
