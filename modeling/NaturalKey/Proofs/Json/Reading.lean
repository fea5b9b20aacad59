import NaturalKey.Json.Document
import NaturalKey.Proofs.Json.Spelling
import NaturalKey.Proofs.Json.Value

/-!
What is read is what is spelled. A text that spells a value is read as its canonical form, if the
value nests no deeper than the budget says; else it is too deep, wherever the depth is reached.
-/

set_option autoImplicit false

namespace NaturalKey.Json

/-! ### Items and members -/

section Container

variable {rest : List UInt8}

/-- Items are read one after another, and the first that fails is the failure of them all. -/
theorem agrees_readItems {α : Type} {item : Reader α} (expected : Json → Except Cause α)
    {items : List Json}
    (each : ∀ json ∈ items, ∀ {text rest : List UInt8}, Spells json text → EndsNumeral rest →
      Agrees (item (text ++ rest)) (expected json) rest)
    {first : Bool} {bytes : List UInt8} (h : SpellsItems first items bytes) (taken : List α)
    {bound : Nat} (le : (bytes ++ rest).length ≤ bound) :
    Agrees (readItems item first taken (bytes ++ rest) le)
      ((items.mapM expected).map (taken.reverse ++ ·)) rest :=
  agrees_readItemsOf expected (fun _ _ _ spelled => spelled.starts) each h.itemsOf taken le

theorem agrees_stringRest {name : String} {letters : List UInt8} (h : SpellsName name letters)
    (rest : List UInt8) : Agrees (stringRest (letters ++ 0x22 :: rest)) (.ok name) rest := by
  have read := takes_stringRest h rest
  rwa [String.ofList_toList] at read

theorem agrees_readMembers {σ : Type} {member : String → σ → Reader σ}
    {next : σ → String × Json → Except Cause σ} {members : List (String × Json)}
    (each : ∀ entry ∈ members, ∀ (state : σ) {before after text rest : List UInt8},
      Space before → Space after → Spells entry.2 text → EndsNumeral rest →
      Agrees (member entry.1 state (before ++ 0x3A :: (after ++ (text ++ rest))))
        (next state entry) rest)
    {first : Bool} {bytes : List UInt8} (h : SpellsMembers first members bytes) (state : σ)
    {bound : Nat} (le : (bytes ++ rest).length ≤ bound) :
    Agrees (readMembers member first state (bytes ++ rest) le) (members.foldlM next state)
      rest := by
  let step (state : σ) (name : String) (value : Json) : Except Cause σ := next state (name, value)
  have read : Agrees (readMembers member first state (bytes ++ rest) le)
      (members.foldlM (addMember .ok step) state) rest := by
    apply agrees_readMembersOf _ _ h.membersOf
    · exact fun _ _ _ named rest => agrees_stringRest named rest
    · rintro entry among name state before after text rest ⟨⟩
      exact each entry among state
  exact read

end Container

/-! ### Scalars -/

theorem takes_readString {text : String} {bytes : List UInt8} (h : Spells (.string text) bytes)
    {space : List UInt8} (spaces : Space space) (rest : List UInt8) :
    Takes (readString (space ++ (bytes ++ rest))) text rest := by
  cases h with
  | @string _ letters spelled =>
    obtain ⟨le, found⟩ := afterSpace_append spaces (b := 0x22) (by decide)
      (letters ++ 0x22 :: rest)
    obtain ⟨shorter, read⟩ := takes_stringRest spelled rest
    rw [String.ofList_toList] at read
    rw [List.cons_append, List.append_assoc, List.singleton_append]
    simp only [readString, found, read]
    exact ⟨Nat.lt_of_lt_of_le shorter (Nat.le_of_lt le), rfl⟩

def TakesScalar (b : UInt8) (bytes : List UInt8) (scalar : Scalar) (rest : List UInt8) : Prop :=
  ∃ outcome, readScalar b bytes = some outcome ∧ Takes outcome scalar rest

theorem takesScalar_null (rest : List UInt8) :
    TakesScalar 0x6E ([0x75, 0x6C, 0x6C] ++ rest) .null rest :=
  ⟨_, rfl, by simp; omega, rfl⟩

theorem takesScalar_true (rest : List UInt8) :
    TakesScalar 0x74 ([0x72, 0x75, 0x65] ++ rest) (.bool true) rest :=
  ⟨_, rfl, by simp; omega, rfl⟩

theorem takesScalar_false (rest : List UInt8) :
    TakesScalar 0x66 ([0x61, 0x6C, 0x73, 0x65] ++ rest) (.bool false) rest :=
  ⟨_, rfl, by simp; omega, rfl⟩

theorem takesScalar_string {text : String} {letters : List UInt8}
    (h : SpellsText text.toList letters) (rest : List UInt8) :
    TakesScalar 0x22 (letters ++ 0x22 :: rest) (.string text) rest := by
  obtain ⟨shorter, read⟩ := takes_stringRest h rest
  rw [String.ofList_toList] at read
  refine ⟨_, rfl, Nat.lt_succ_of_lt shorter, ?_⟩
  rw [read]
  rfl

theorem readScalar_of_isDigit {b : UInt8} (h : isDigit b = true) (rest : List UInt8) :
    readScalar b rest = some ((numeral false (b :: rest)).map (Step.map .number)) := by
  have notLetter : b ≠ 0x6E ∧ b ≠ 0x74 ∧ b ≠ 0x66 ∧ b ≠ 0x2D := by
    refine ⟨?_, ?_, ?_, ?_⟩ <;> rintro rfl <;> exact absurd h (by decide)
  obtain ⟨notNull, notTrue, notFalse, notMinus⟩ := notLetter
  simp only [readScalar, if_neg notNull, if_neg notTrue, if_neg notFalse, if_neg notMinus, h,
    if_true]

theorem takesScalar_number {number : Number} {b : UInt8} {bytes rest : List UInt8}
    (h : SpellsNumber number (b :: bytes)) (ends : EndsNumeral rest) :
    TakesScalar b (bytes ++ rest) (.number number) rest := by
  obtain ⟨negative, numerals, equal, first, read⟩ := h.exists_numeral
  cases negative with
  | true =>
    obtain ⟨rfl, rfl⟩ := List.cons.inj equal
    obtain ⟨shorter, taken⟩ := read ends
    refine ⟨_, rfl, Nat.lt_succ_of_lt shorter, ?_⟩
    simp only [taken]
    rfl
  | false =>
    have equal : b :: bytes = numerals := equal
    subst equal
    exact ⟨_, readScalar_of_isDigit first _, (read ends).map Scalar.number⟩

theorem Spells.takesScalar {json : Json} {text : List UInt8} (h : Spells json text)
    (scalar : json.depth = 0) {rest : List UInt8} (ends : EndsNumeral rest) :
    ∃ b more found, text = b :: more ∧ isSpace b = false ∧
      Scalar.toValue found = json.canonicalize ∧
      TakesScalar b (more ++ rest) found rest := by
  cases h with
  | null => exact ⟨_, _, .null, rfl, by decide, rfl, takesScalar_null rest⟩
  | yes => exact ⟨_, _, .bool true, rfl, by decide, rfl, takesScalar_true rest⟩
  | no => exact ⟨_, _, .bool false, rfl, by decide, rfl, takesScalar_false rest⟩
  | @number number text spelled =>
    obtain ⟨b, more, rfl, token, -⟩ := (Spells.number spelled).starts
    exact ⟨b, more, .number number, rfl, token, rfl, takesScalar_number spelled ends⟩
  | @string text letters spelled =>
    refine ⟨_, _, .string text, rfl, by decide, rfl, ?_⟩
    rw [List.append_assoc]
    exact takesScalar_string spelled rest
  | array _ => simp [depth] at scalar
  | object _ => simp [depth] at scalar

/-- The outcome of reading a scalar, or what would have been one. -/
def AgreesScalar (b : UInt8) (bytes : List UInt8) (expected : Except Cause Scalar)
    (rest : List UInt8) : Prop :=
  ∃ outcome, readScalar b bytes = some outcome ∧ Agrees outcome expected rest

theorem AgreesScalar.agrees_readValue {b : UInt8} {bytes rest : List UInt8}
    {expected : Except Cause Scalar} (h : AgreesScalar b bytes expected rest) (budget : Nat)
    {space : List UInt8} (spaces : Space space) (token : isSpace b = false) :
    Agrees (readValue budget (space ++ b :: bytes)) (expected.map Scalar.toValue) rest := by
  obtain ⟨le, found⟩ := afterSpace_append spaces token bytes
  obtain ⟨outcome, scalar, agrees⟩ := h
  rw [readValue]
  simp only [found, scalar]
  cases outcome with
  | error stop => exact (agrees.map Scalar.toValue).of_error
  | ok step => exact (agrees.map Scalar.toValue).weaken le

theorem takes_readValue_of_takesScalar (budget : Nat) {space : List UInt8} (spaces : Space space)
    {b : UInt8} (token : isSpace b = false) {bytes rest : List UInt8} {scalar : Scalar}
    (h : TakesScalar b bytes scalar rest) :
    Takes (readValue budget (space ++ b :: bytes)) scalar.toValue rest := by
  have agrees : AgreesScalar b bytes (.ok scalar) rest := h
  exact agrees.agrees_readValue budget spaces token

/-! ### Brackets -/

section Brackets

variable {budget : Nat} {space bytes rest : List UInt8}

theorem agrees_readValue_zero {b : UInt8} (opens : b = 0x5B ∨ b = 0x7B) (spaces : Space space)
    (bytes rest : List UInt8) :
    Agrees (readValue 0 (space ++ b :: bytes)) (.error .tooDeep) rest := by
  have token : isSpace b = false := by
    rcases opens with rfl | rfl <;> decide
  have noScalar : readScalar b bytes = none := by
    rcases opens with rfl | rfl <;> rfl
  obtain ⟨le, found⟩ := afterSpace_append spaces token bytes
  rw [readValue]
  simp only [found, noScalar]
  rcases opens with rfl | rfl
  · exact ⟨_, rfl, rfl⟩
  · exact ⟨_, rfl, rfl⟩

theorem agrees_readValue_items {expected : Except Cause (List Value)} (spaces : Space space)
    (outcome : Agrees (readItems (readValue budget) true [] bytes (length_le _)) expected rest) :
    Agrees (readValue (budget + 1) (space ++ 0x5B :: bytes)) (expected.map Value.array) rest := by
  obtain ⟨le, found⟩ := afterSpace_append spaces (b := 0x5B) (by decide) bytes
  have noScalar : readScalar 0x5B bytes = none := rfl
  simp only [readValue, found, noScalar, if_true]
  generalize readItems (readValue budget) true [] bytes _ = read at outcome ⊢
  cases read with
  | error stop => exact (outcome.map Value.array).of_error
  | ok step => exact (outcome.map Value.array).weaken (Nat.le_of_lt le)

theorem agrees_readValue_members {expected : Except Cause Object} (spaces : Space space)
    (outcome : Agrees (readMembers (putMember (readValue budget)) true .empty bytes (length_le _))
      expected rest) :
    Agrees (readValue (budget + 1) (space ++ 0x7B :: bytes))
      (expected.map Object.toValue) rest := by
  obtain ⟨le, found⟩ := afterSpace_append spaces (b := 0x7B) (by decide) bytes
  have noScalar : readScalar 0x7B bytes = none := rfl
  have noBracket : ¬(0x7B : UInt8) = 0x5B := by decide
  simp only [readValue, found, noScalar, if_neg noBracket, if_true]
  generalize readMembers (putMember (readValue budget)) true .empty bytes _ = read at outcome ⊢
  cases read with
  | error stop => exact (outcome.map Object.toValue).of_error
  | ok step => exact (outcome.map Object.toValue).weaken (Nat.le_of_lt le)

theorem agrees_readObject_members {expected : Except Cause Object} (spaces : Space space)
    (outcome : Agrees (readMembers (putMember (readValue budget)) true .empty bytes (length_le _))
      expected rest) :
    Agrees (readObject budget (space ++ 0x7B :: bytes)) expected rest := by
  obtain ⟨le, found⟩ := afterSpace_append spaces (b := 0x7B) (by decide) bytes
  simp only [readObject, readObjectOf, found, if_true]
  generalize readMembers (putMember (readValue budget)) true .empty bytes _ = read at outcome ⊢
  cases read with
  | error stop => exact outcome.of_error
  | ok step => exact outcome.weaken (Nat.le_of_lt le)

end Brackets

/-! ### Values -/

def within (budget : Nat) (json : Json) : Except Cause Value :=
  if json.depth ≤ budget then .ok json.canonicalize else .error .tooDeep

theorem within_of_depth_eq_zero {json : Json} (h : json.depth = 0) (budget : Nat) :
    within budget json = .ok json.canonicalize := by
  simp [within, h]

theorem mapM_within (budget : Nat) (items : List Json) :
    items.mapM (within budget) =
      if depthOfAll items ≤ budget then .ok (items.map canonicalize) else .error .tooDeep := by
  induction items with
  | nil => simp [depthOfAll]; rfl
  | cons item rest ih =>
    simp only [List.mapM_cons, ih, within, depthOfAll, Nat.max_le]
    by_cases first : item.depth ≤ budget
    · by_cases others : depthOfAll rest ≤ budget
      · simp only [first, others, and_self, if_true]
        rfl
      · simp only [first, others, and_false, if_true, if_false]
        rfl
    · simp only [first, false_and, if_false]
      rfl

def putWithin (budget : Nat) (object : Object) (entry : String × Json) : Except Cause Object :=
  (within budget entry.2).map (object.put entry.1)

theorem foldlM_putWithin (budget : Nat) (members : List (String × Json)) (object : Object) :
    members.foldlM (putWithin budget) object =
      if depthOfMembers members ≤ budget then .ok (object.putAll members) else .error .tooDeep := by
  induction members generalizing object with
  | nil => simp [depthOfMembers, Object.putAll]; rfl
  | cons entry rest ih =>
    simp only [List.foldlM_cons, putWithin, within, depthOfMembers, Nat.max_le, Object.putAll]
    by_cases first : entry.2.depth ≤ budget
    · simp only [first, true_and, if_true]
      exact ih _
    · simp only [first, false_and, if_false]
      rfl

theorem within_array (budget : Nat) (items : List Json) :
    within (budget + 1) (.array items) = ((items.mapM (within budget)).map Value.array) := by
  rw [mapM_within]
  simp only [within, depth, Nat.succ_le_succ_iff]
  split
  · rw [canonicalize, canonicalizeAll_eq_map]
    rfl
  · rfl

theorem within_object (budget : Nat) (members : List (String × Json)) :
    within (budget + 1) (.object members) =
      (members.foldlM (putWithin budget) .empty).map Object.toValue := by
  rw [foldlM_putWithin]
  simp only [within, depth, Nat.succ_le_succ_iff]
  split
  · rfl
  · rfl

theorem agrees_readValue_of_depth_eq_zero {json : Json} (scalar : json.depth = 0) (budget : Nat)
    {text space rest : List UInt8} (h : Spells json text) (spaces : Space space)
    (ends : EndsNumeral rest) :
    Agrees (readValue budget (space ++ (text ++ rest))) (within budget json) rest := by
  obtain ⟨b, more, found, rfl, token, same, taken⟩ := h.takesScalar scalar ends
  rw [within_of_depth_eq_zero scalar, ← same]
  exact takes_readValue_of_takesScalar budget spaces token taken

/-- The value's text is read as it should be, whatever stands around it. -/
def ReadWithin (budget : Nat) (json : Json) : Prop :=
  ∀ {text space rest : List UInt8}, Spells json text → Space space → EndsNumeral rest →
    Agrees (readValue budget (space ++ (text ++ rest))) (within budget json) rest

theorem agrees_readValue_array {budget : Nat} {items : List Json}
    (each : ∀ item ∈ items, ReadWithin budget item) {bytes space rest : List UInt8}
    (h : SpellsItems true items bytes) (spaces : Space space) :
    Agrees (readValue (budget + 1) (space ++ (0x5B :: bytes ++ rest)))
      (within (budget + 1) (.array items)) rest := by
  have read := agrees_readItems (within budget)
    (fun item member _ _ spelled ends => each item member spelled space_nil ends) h []
    (length_le (bytes ++ rest))
  have whole := agrees_readValue_items spaces read
  have order : ([].reverse ++ · : List Value → List Value) = id := rfl
  rwa [order, Except.map_id, id_eq, ← within_array] at whole

theorem agrees_readMembers_readValue {budget : Nat} {members : List (String × Json)}
    (each : ∀ entry ∈ members, ReadWithin budget entry.2) {bytes : List UInt8}
    (h : SpellsMembers true members bytes) (rest : List UInt8) :
    Agrees (readMembers (putMember (readValue budget)) true .empty (bytes ++ rest) (length_le _))
      (members.foldlM (putWithin budget) .empty) rest := by
  apply agrees_readMembers _ h
  intro entry member object before after text rest spaceBefore spaceAfter spelled ends
  exact (agrees_afterColon spaceBefore (each entry member spelled spaceAfter ends)).map _

theorem agrees_readValue_object {budget : Nat} {members : List (String × Json)}
    (each : ∀ entry ∈ members, ReadWithin budget entry.2) {bytes space rest : List UInt8}
    (h : SpellsMembers true members bytes) (spaces : Space space) :
    Agrees (readValue (budget + 1) (space ++ (0x7B :: bytes ++ rest)))
      (within (budget + 1) (.object members)) rest := by
  rw [within_object]
  exact agrees_readValue_members spaces (agrees_readMembers_readValue each h rest)

/-- A text that spells a value is read as this value. -/
theorem agrees_readValue (budget : Nat) (json : Json) : ReadWithin budget json := by
  intro text space rest h spaces ends
  induction json using nestedInduction generalizing budget text space rest with
  | null => exact agrees_readValue_of_depth_eq_zero rfl budget h spaces ends
  | bool value => exact agrees_readValue_of_depth_eq_zero rfl budget h spaces ends
  | number value => exact agrees_readValue_of_depth_eq_zero rfl budget h spaces ends
  | string value => exact agrees_readValue_of_depth_eq_zero rfl budget h spaces ends
  | array items ih =>
    cases h with
    | @array _ bytes spelled =>
      cases budget with
      | zero => exact agrees_readValue_zero (.inl rfl) spaces (bytes ++ rest) rest
      | succ budget =>
        have each : ∀ item ∈ items, ReadWithin budget item :=
          fun item member _ _ _ => ih item member budget
        exact agrees_readValue_array each spelled spaces
  | object members ih =>
    cases h with
    | @object _ bytes spelled =>
      cases budget with
      | zero => exact agrees_readValue_zero (.inr rfl) spaces (bytes ++ rest) rest
      | succ budget =>
        have each : ∀ entry ∈ members, ReadWithin budget entry.2 :=
          fun entry member _ _ _ => ih entry member budget
        exact agrees_readValue_object each spelled spaces

end NaturalKey.Json
