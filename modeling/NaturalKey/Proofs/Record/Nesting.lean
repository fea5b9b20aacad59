import NaturalKey.Proofs.Json.Nesting
import NaturalKey.Proofs.Outcome
import NaturalKey.Proofs.Record.Reading

/-!
How deeply the attributes of records are nested. Those of a record that is read from a text are
never too deep for the record to be read again.
-/

set_option autoImplicit false

namespace NaturalKey

open Json (Yields yields_afterColon)

namespace Record

def Draft.Shallow (draft : Draft) : Prop :=
  ∀ object, draft.attributes? = some object → object.toJson.depth ≤ attributeBudget + 1

theorem Draft.shallow_record {draft : Draft} (h : draft.Shallow) {record : Record}
    (complete : draft.record = .ok record) : record.Shallow := by
  simp only [Draft.record] at complete
  split at complete
  · cases complete
  · cases complete
  · cases complete
  · cases complete
  · cases complete
    cases attributes : draft.attributes? with
    | none => exact Nat.le_of_ble_eq_true rfl
    | some object => exact h object attributes

theorem yields_readMember (name : String) {draft : Draft} (h : draft.Shallow) :
    Yields (readMember name draft) Draft.Shallow := by
  intro bytes step read
  simp only [readMember] at read
  split at read
  · exact Yields.map (fun _ _ _ => h) bytes step read
  · split at read
    · cases read
    · split at read
      · exact Yields.map (fun _ _ _ => h) bytes step read
      · exact Yields.map (fun _ _ _ => h) bytes step read
      · exact Yields.map (fun _ _ _ => h) bytes step read
      · exact Yields.map (fun _ _ _ => h) bytes step read
      · have inner := yields_afterColon (Json.depth_readObject_le attributeBudget)
        apply Yields.map _ bytes step read
        intro bytes step read object same
        cases same
        exact inner bytes step read

theorem yields_readMembers : Yields readMembers Shallow := by
  intro bytes step read
  simp only [readMembers] at read
  split at read
  · cases read
  · rename_i found
    split at read
    · rename_i complete
      cases read
      have start : Draft.empty.Shallow := by
        intro object same
        cases same
      exact Draft.shallow_record
        (Json.readMembers_preserves (fun name _ => yields_readMember name) found start) complete
    · cases read

theorem yields_readLastItem :
    Yields readLastItem fun object => object.toJson.depth ≤ attributeBudget + 1 := by
  intro bytes step read
  simp only [readLastItem] at read
  split at read
  · cases read
  · cases read
    exact Nat.le_of_ble_eq_true rfl
  · obtain ⟨object, found, read⟩ := bind_eq_ok.mp read
    obtain ⟨close, -, read⟩ := bind_eq_ok.mp read
    cases read
    have inner := Json.depth_readObject_le attributeBudget _ _ found
    exact inner

theorem yields_readItems : Yields readItems Shallow := by
  intro bytes step read
  simp only [readItems] at read
  obtain ⟨tenant, -, read⟩ := bind_eq_ok.mp read
  obtain ⟨recordType, -, read⟩ := bind_eq_ok.mp read
  obtain ⟨keyField, -, read⟩ := bind_eq_ok.mp read
  obtain ⟨id, -, read⟩ := bind_eq_ok.mp read
  obtain ⟨attributes, found, read⟩ := bind_eq_ok.mp read
  cases read
  have inner := yields_readLastItem _ _ found
  exact inner

theorem yields_read : Yields read Shallow := by
  intro bytes step h
  simp only [read] at h
  split at h
  · cases h
  · split at h
    · obtain ⟨members, found, rfl⟩ := map_eq_ok.mp h
      have inner := yields_readMembers _ _ found
      exact inner
    · split at h
      · obtain ⟨items, found, rfl⟩ := map_eq_ok.mp h
        have inner := yields_readItems _ _ found
        exact inner
      · exact absurd h (Json.mismatch_ne_ok _ _ _ _)

/-- A record that is read from a text can be read again from its own. -/
theorem shallow_of_parse {text : List UInt8} {record : Record} (h : parse text = .ok record) :
    record.Shallow := by
  simp only [parse] at h
  split at h
  · rename_i found
    cases h
    exact yields_read.readAll found
  · cases h

end Record

/-! ### Values nested at will -/

def Json.nest : Nat → Json
  | 0 => .array []
  | levels + 1 => .array [nest levels]

theorem Json.canonical_nest (levels : Nat) : (nest levels).Canonical := by
  induction levels with
  | zero => trivial
  | succ levels ih => exact ⟨ih, trivial⟩

theorem Json.depth_nest (levels : Nat) : (nest levels).depth = levels + 1 := by
  induction levels with
  | zero => rfl
  | succ levels ih => rw [nest, depth, depthOfAll, depthOfAll, ih, Nat.max_zero]

theorem Json.integral_nest (levels : Nat) : (nest levels).Integral := by
  induction levels with
  | zero => trivial
  | succ levels ih => exact ⟨ih, trivial⟩

def Record.nested (recordType : RecordType) (id : RecordId) (levels : Nat) : Record where
  tenant := Tenant.default
  recordType := recordType
  keyField := ""
  id := id
  attributes := Json.Object.empty.put "" ⟨.nest levels, Json.canonical_nest levels⟩

theorem Record.shallow_nested_iff {recordType : RecordType} {id : RecordId} {levels : Nat} :
    (nested recordType id levels).Shallow ↔ levels < attributeBudget := by
  have members :
      (nested recordType id levels).attributes.toJson = .object [("", .nest levels)] := rfl
  rw [Shallow, members, Json.depth, Json.depthOfMembers, Json.depthOfMembers, Json.depth_nest,
    Nat.max_zero, Nat.add_le_add_iff_right, Nat.succ_le_iff]

end NaturalKey
