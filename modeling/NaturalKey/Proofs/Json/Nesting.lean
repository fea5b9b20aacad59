import NaturalKey.Json.Document
import NaturalKey.Proofs.Json.Reader
import NaturalKey.Proofs.Json.Value
import NaturalKey.Proofs.Outcome

/-!
How deeply what is read is nested. No value is read that nests deeper than the budget it is read
with, wherever it stands; and one that is read would be the same with more.
-/

set_option autoImplicit false

namespace NaturalKey.Json

def Yields {α : Type} (reader : Reader α) (P : α → Prop) : Prop :=
  ∀ bytes step, reader bytes = .ok step → P step.value

section Containers

variable {α σ : Type} {bound : Nat}

theorem forall_mem_readItems {item : Reader α} {P : α → Prop} (each : Yields item P)
    {first : Bool} {taken : List α} {bytes : List UInt8} {le : bytes.length ≤ bound}
    {step : Step bound (List α)} (read : readItems item first taken bytes le = .ok step)
    (before : ∀ value ∈ taken, P value) : ∀ value ∈ step.value, P value := by
  fun_induction readItems item first taken bytes le with
  | case1 => cases read
  | case2 =>
    cases read
    exact fun value member => before value (List.mem_reverse.mp member)
  | case3 => cases read
  | case4 first taken bytes le _ rest _ _ value rest' shorter found ih =>
    apply ih read
    intro other member
    rcases List.mem_cons.mp member with rfl | member
    · exact each rest _ found
    · exact before other member

theorem readMembers_preserves {member : String → σ → Reader σ} {P : σ → Prop}
    (each : ∀ name state, P state → Yields (member name state) P)
    {first : Bool} {state : σ} {bytes : List UInt8} {le : bytes.length ≤ bound}
    {step : Step bound σ} (read : readMembers member first state bytes le = .ok step)
    (before : P state) : P step.value := by
  fun_induction readMembers member first state bytes le with
  | case1 => cases read
  | case2 =>
    cases read
    exact before
  | case3 => cases read
  | case4 => cases read
  | case5 first state bytes le _ rest _ _ name _ state' rest' shorter found _ ih =>
    exact ih read (each name.value state before name.rest _ found)

theorem yields_afterColon {reader : Reader α} {P : α → Prop} (h : Yields reader P) :
    Yields (afterColon reader) P := by
  intro bytes step read
  simp only [afterColon] at read
  split at read
  · cases read
  · split at read
    · cases read
    · rename_i found
      cases read
      have value := h _ _ found
      exact value

theorem Yields.map {β : Type} {reader : Reader α} {P : β → Prop} {f : α → β}
    (h : Yields reader fun value => P (f value)) :
    Yields (fun bytes => (reader bytes).map (Step.map f)) P := by
  intro bytes step read
  cases found : reader bytes with
  | error stop =>
    simp only [found] at read
    cases read
  | ok step' =>
    simp only [found] at read
    cases read
    exact h _ _ found

end Containers

theorem depthOfMembers_put_le {object : Object} {name : String} {value : Value} {n : Nat}
    (members : depthOfMembers object.members ≤ n) (inner : value.json.depth ≤ n) :
    depthOfMembers (object.put name value).members ≤ n := by
  rw [depthOfMembers_le_iff] at members ⊢
  intro entry member
  rcases mem_putEntry member with same | old
  · rwa [same]
  · exact members entry old

theorem depth_toValue_scalar (scalar : Scalar) : scalar.toValue.json.depth = 0 := by
  cases scalar <;> rfl

theorem depth_array_le {items : List Value} {n : Nat} (h : ∀ item ∈ items, item.json.depth ≤ n) :
    (Value.array items).json.depth ≤ n + 1 := by
  rw [Value.json_array, depth]
  apply Nat.succ_le_succ
  rw [depthOfAll_le_iff]
  intro json member
  obtain ⟨item, among, rfl⟩ := List.mem_map.mp member
  exact h item among

theorem yields_putMember {reader : Reader Value} {n : Nat}
    (h : Yields reader fun value => value.json.depth ≤ n) (name : String) {object : Object}
    (members : depthOfMembers object.members ≤ n) :
    Yields (putMember reader name object) fun object => depthOfMembers object.members ≤ n := by
  apply Yields.map
  intro bytes step read
  exact depthOfMembers_put_le members (yields_afterColon h bytes step read)

theorem depth_members_le {reader : Reader Value} {n bound : Nat}
    (h : Yields reader fun value => value.json.depth ≤ n) {bytes : List UInt8}
    {le : bytes.length ≤ bound} {step : Step bound Object}
    (read : readMembers (putMember reader) true .empty bytes le = .ok step) :
    depthOfMembers step.value.members ≤ n :=
  readMembers_preserves (P := fun object => depthOfMembers object.members ≤ n)
    (fun name _ => yields_putMember h name) read (Nat.zero_le _)

/-- A value is a scalar, an array or an object; what is in it has been read with less budget. -/
theorem readValue_ok {budget : Nat} {bytes : List UInt8} {step : Step bytes.length Value}
    (read : readValue budget bytes = .ok step) :
    (∃ scalar : Scalar, step.value = scalar.toValue) ∨
      ∃ inner, budget = inner + 1 ∧ ∃ rest : List UInt8,
        (∃ items : Step rest.length (List Value),
          readItems (readValue inner) true [] rest (Nat.le_refl _) = .ok items ∧
            step.value = .array items.value) ∨
        ∃ object : Step rest.length Object,
          readMembers (putMember (readValue inner)) true .empty rest (Nat.le_refl _) = .ok object ∧
            step.value = object.value.toValue := by
  rw [readValue] at read
  split at read
  · cases read
  · rename_i b rest le _
    split at read
    · cases read
    · cases read
      exact .inl ⟨_, rfl⟩
    · split at read
      · cases budget with
        | zero => cases read
        | succ inner =>
          simp only at read
          split at read
          · cases read
          · rename_i items found
            cases read
            exact .inr ⟨inner, rfl, rest, .inl ⟨items, found, rfl⟩⟩
      · split at read
        · cases budget with
          | zero => cases read
          | succ inner =>
            simp only at read
            split at read
            · cases read
            · rename_i object found
              cases read
              exact .inr ⟨inner, rfl, rest, .inr ⟨object, found, rfl⟩⟩
        · cases read

/-- No value nests deeper than the budget with which it is read. -/
theorem depth_readValue_le (budget : Nat) :
    Yields (readValue budget) fun value => value.json.depth ≤ budget := by
  induction budget using Nat.strongRecOn with
  | ind budget ih =>
    intro bytes step read
    obtain ⟨scalar, same⟩ | ⟨inner, rfl, rest, contents⟩ := readValue_ok read
    · rw [same, depth_toValue_scalar]
      exact Nat.zero_le _
    · have within := ih inner (Nat.lt_succ_self inner)
      rcases contents with ⟨items, found, same⟩ | ⟨object, found, same⟩
      · rw [same]
        exact depth_array_le (forall_mem_readItems within found (by simp))
      · rw [same]
        exact Nat.succ_le_succ (depth_members_le within found)

theorem depth_readObject_le (budget : Nat) :
    Yields (readObject budget) fun object => object.toJson.depth ≤ budget + 1 := by
  intro bytes step read
  simp only [readObject, readObjectOf] at read
  split at read
  · cases read
  · split at read
    · split at read
      · cases read
      · rename_i found
        cases read
        have members := depth_members_le (depth_readValue_le budget) found
        exact Nat.succ_le_succ members
    · exact absurd read (mismatch_ne_ok _ _ _ _)

theorem Yields.readAll {α : Type} {reader : Reader α} {P : α → Prop} (h : Yields reader P)
    {supply : Supply} {text : List UInt8} {value : α}
    (read : reader.readAll supply text = .ok value) : P value := by
  obtain ⟨_, -, _, taken⟩ := Reader.exists_takes_of_readAll read
  exact h _ _ taken

theorem depth_parse_le {text : List UInt8} {value : Value} (h : parse text = .ok value) :
    value.json.depth ≤ depthLimit :=
  (depth_readValue_le depthLimit).readAll h

/-! ### More budget -/

def Extends {α : Type} (more reader : Reader α) : Prop :=
  ∀ bytes step, reader bytes = .ok step → more bytes = .ok step

section Extends

variable {α σ : Type} {bound : Nat}

theorem Extends.takes {more reader : Reader α} (h : Extends more reader) {bytes rest : List UInt8}
    {value : α} (taken : Takes (reader bytes) value rest) : Takes (more bytes) value rest := by
  obtain ⟨shorter, read⟩ := taken
  exact ⟨shorter, h _ _ read⟩

theorem Extends.readItems {more item : Reader α} (h : Extends more item) {first : Bool}
    {taken : List α} {bytes : List UInt8} {le : bytes.length ≤ bound} {step : Step bound (List α)}
    (read : Json.readItems item first taken bytes le = .ok step) :
    Json.readItems more first taken bytes le = .ok step := by
  fun_induction Json.readItems item first taken bytes le with
  | case1 => cases read
  | case2 first taken bytes le rest shorter closed =>
    rw [Json.readItems]
    simp only [closed]
    exact read
  | case3 => cases read
  | case4 first taken bytes le _ rest _ next value rest' shorter found ih =>
    rw [Json.readItems]
    simp only [next, h rest _ found]
    exact ih read

theorem Extends.readMembers {more member : String → σ → Reader σ}
    (h : ∀ name state, Extends (more name state) (member name state)) {first : Bool}
    {state : σ} {bytes : List UInt8} {le : bytes.length ≤ bound} {step : Step bound σ}
    (read : Json.readMembers member first state bytes le = .ok step) :
    Json.readMembers more first state bytes le = .ok step := by
  fun_induction Json.readMembers member first state bytes le with
  | case1 => cases read
  | case2 first state bytes le rest shorter closed =>
    rw [Json.readMembers]
    simp only [closed]
    exact read
  | case3 => cases read
  | case4 => cases read
  | case5 first state bytes le _ rest _ next name named state' rest' shorter found _ ih =>
    rw [Json.readMembers]
    simp only [next, named, h name.value state name.rest _ found]
    exact ih read

theorem Extends.afterColon {more reader : Reader α} (h : Extends more reader) :
    Extends (Json.afterColon more) (Json.afterColon reader) := by
  intro bytes step read
  simp only [Json.afterColon] at read ⊢
  split at read
  · cases read
  · split at read
    · cases read
    · rename_i found
      simp only [h _ _ found]
      exact read

theorem Extends.putMember {more reader : Reader Value} (h : Extends more reader)
    (name : String) (object : Object) :
    Extends (Json.putMember more name object) (Json.putMember reader name object) := by
  intro bytes step read
  obtain ⟨value, found, rfl⟩ := map_eq_ok.mp read
  rw [Json.putMember, h.afterColon bytes value found]
  rfl

end Extends

theorem extends_readValue {budget more : Nat} (le : budget ≤ more) :
    Extends (readValue more) (readValue budget) := by
  induction budget generalizing more with
  | zero =>
    intro bytes step read
    rw [readValue] at read ⊢
    split at read
    · cases read
    · split at read
      · cases read
      · exact read
      · split at read
        · cases read
        · split at read
          · cases read
          · cases read
  | succ budget ih =>
    obtain ⟨more, rfl⟩ := Nat.exists_eq_add_of_le' (Nat.le_of_add_left_le le)
    have inner := ih (Nat.le_of_succ_le_succ le)
    intro bytes step read
    rw [readValue] at read ⊢
    split at read
    · cases read
    · split at read
      · cases read
      · exact read
      · split at read
        · rename_i bracket
          rw [if_pos bracket]
          simp only at read ⊢
          split at read
          · cases read
          · rename_i found
            simp only [inner.readItems found]
            exact read
        · rename_i noBracket
          split at read
          · rename_i brace
            rw [if_neg noBracket, if_pos brace]
            simp only at read ⊢
            split at read
            · cases read
            · rename_i found
              simp only [Extends.readMembers (fun name object => inner.putMember name object) found]
              exact read
          · cases read

theorem Value.object?_eq_some_iff {value : Value} {object : Object} :
    value.object? = some object ↔ value = object.toValue := by
  constructor
  · intro found
    simp only [object?] at found
    split at found
    · cases found
      rfl
    · cases found
  · rintro rfl
    rfl

theorem Value.toJson_of_object? {value : Value} {object : Object}
    (h : value.object? = some object) :
    object.toJson = value.json := by
  rw [object?_eq_some_iff.mp h]
  rfl

end NaturalKey.Json
