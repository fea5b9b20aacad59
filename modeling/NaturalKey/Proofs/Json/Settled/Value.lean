import NaturalKey.Proofs.Json.Nesting
import NaturalKey.Proofs.Json.Reading
import NaturalKey.Proofs.Json.Settled.Number
import NaturalKey.Proofs.Json.Settled.String

/-!
What a value comes to is settled by its text: it does not matter where the text stands. So an object
that is read somewhere inside a document is read as the same where it is a document of its own.
-/

set_option autoImplicit false

namespace NaturalKey.Json

/-! ### Scalars -/

/-- The first byte of a scalar is none of white space, and the scalar comes to the same whatever
follows it. -/
def ScalarSettled (text : List UInt8) : Prop :=
  ∃ b more, text = b :: more ∧ isSpace b = false ∧ ∃ expected, ∀ {rest : List UInt8},
    EndsNumeral rest → AgreesScalar b (more ++ rest) expected rest

theorem NumberText.scalarSettled {text : List UInt8} (h : NumberText text) :
    ScalarSettled text := by
  cases h with
  | @parts negative whole fraction exponent wholeText fractionText exponentText =>
    obtain ⟨expected, read⟩ :=
      exists_agrees_numeral negative wholeText fractionText exponentText
    cases negative with
    | true =>
      refine ⟨0x2D, whole ++ (fraction ++ exponent), rfl, by decide, expected.map .number,
        fun {rest} ends => ?_⟩
      have outcome := read rest ends
      rw [List.append_assoc, List.append_assoc]
      refine ⟨_, rfl, ?_⟩
      generalize numeral true (whole ++ (fraction ++ (exponent ++ rest))) = read at outcome ⊢
      cases read with
      | error stop => exact outcome.of_error.map Scalar.number
      | ok step => exact (outcome.map Scalar.number).weaken (length_le_succ _)
    | false =>
      obtain ⟨b, more, rfl, digit⟩ := wholeText.exists_first
      refine ⟨b, more ++ (fraction ++ exponent), rfl, (not_isSpace_of_isDigit digit).1,
        expected.map .number, fun {rest} ends => ?_⟩
      have outcome := (read rest ends).map Scalar.number
      rw [List.append_assoc, List.append_assoc]
      exact ⟨_, readScalar_of_isDigit digit _, outcome⟩

theorem LettersText.scalarSettled {letters : List UInt8} (h : LettersText letters) :
    ScalarSettled (0x22 :: (letters ++ [0x22])) := by
  obtain ⟨expected, read⟩ := h.exists_agrees_stringRest
  refine ⟨0x22, _, rfl, by decide, expected.map .string, fun {rest} _ => ?_⟩
  have outcome := read rest
  rw [List.append_assoc, List.singleton_append]
  refine ⟨_, rfl, ?_⟩
  generalize stringRest (letters ++ 0x22 :: rest) = read at outcome ⊢
  cases read with
  | error stop => exact outcome.of_error.map Scalar.string
  | ok step => exact (outcome.map Scalar.string).weaken (length_le_succ _)

theorem scalarSettled_null : ScalarSettled [0x6E, 0x75, 0x6C, 0x6C] :=
  ⟨_, _, rfl, by decide, .ok .null, fun {rest} _ => takesScalar_null rest⟩

theorem scalarSettled_true : ScalarSettled [0x74, 0x72, 0x75, 0x65] :=
  ⟨_, _, rfl, by decide, .ok (.bool true), fun {rest} _ => takesScalar_true rest⟩

theorem scalarSettled_false : ScalarSettled [0x66, 0x61, 0x6C, 0x73, 0x65] :=
  ⟨_, _, rfl, by decide, .ok (.bool false), fun {rest} _ => takesScalar_false rest⟩

/-! ### Values -/

def Settled (budget : Nat) (text : List UInt8) : Prop :=
  ∃ expected, ∀ {space rest : List UInt8}, Space space → EndsNumeral rest →
    Agrees (readValue budget (space ++ (text ++ rest))) expected rest

theorem ScalarSettled.settled {text : List UInt8} (h : ScalarSettled text) (budget : Nat) :
    Settled budget text := by
  obtain ⟨b, more, rfl, token, expected, read⟩ := h
  exact ⟨expected.map Scalar.toValue,
    fun spaces ends => (read ends).agrees_readValue budget spaces token⟩

section Containers

variable {budget : Nat} {bytes : List UInt8}

theorem exists_expected (budget : Nat) :
    ∃ expected : List UInt8 → Except Cause Value, ∀ text, Settled budget text →
      ∀ {space rest : List UInt8}, Space space → EndsNumeral rest →
        Agrees (readValue budget (space ++ (text ++ rest))) (expected text) rest := by
  have : Nonempty (Except Cause Value) := ⟨.error .tooDeep⟩
  have each : ∀ text, Settled budget text → Settled budget text := fun _ settled => settled
  choose! expected read using each
  exact ⟨expected, read⟩

theorem exists_name : ∃ nameOf : List UInt8 → Except Cause String, ∀ letters, LettersText letters →
    ∀ rest, Agrees (stringRest (letters ++ 0x22 :: rest)) (nameOf letters) rest := by
  have : Nonempty (Except Cause String) := ⟨.error .tooDeep⟩
  have each : ∀ letters, LettersText letters → ∃ expected, ∀ rest,
      Agrees (stringRest (letters ++ 0x22 :: rest)) expected rest :=
    fun _ text => text.exists_agrees_stringRest
  choose! nameOf read using each
  exact ⟨nameOf, read⟩

theorem exists_agrees_readItems {items : List (List UInt8)} (h : ItemsOf (· = ·) true items bytes)
    (starts : ∀ item ∈ items, Starts item) (each : ∀ item ∈ items, Settled budget item) :
    ∃ expected, ∀ rest,
      Agrees (readItems (readValue budget) true [] (bytes ++ rest) (length_le _))
        expected rest := by
  obtain ⟨expected, read⟩ := exists_expected budget
  refine ⟨(items.mapM expected).map ([].reverse ++ ·), fun rest => ?_⟩
  apply agrees_readItemsOf expected _ _ h
  · rintro item among _ rfl
    exact starts item among
  · rintro item among _ rest rfl ends
    exact read item (each item among) space_nil ends

theorem exists_agrees_readMembers {members : List (List UInt8 × List UInt8)}
    (h : MembersOf (· = ·) (· = ·) true members bytes)
    (names : ∀ member ∈ members, LettersText member.1)
    (each : ∀ member ∈ members, Settled budget member.2) :
    ∃ expected, ∀ rest, Agrees
      (readMembers (putMember (readValue budget)) true .empty (bytes ++ rest) (length_le _))
      expected rest := by
  obtain ⟨nameOf, readName⟩ := exists_name
  obtain ⟨expected, read⟩ := exists_expected budget
  let next (object : Object) (name : String) (text : List UInt8) : Except Cause Object :=
    (expected text).map (object.put name)
  refine ⟨members.foldlM (addMember nameOf next) .empty, fun rest => ?_⟩
  apply agrees_readMembersOf _ _ h
  · rintro member among _ rfl
    exact readName member.1 (names member among)
  · rintro member among name object before after _ rest - spaceBefore spaceAfter rfl ends
    have value := read member.2 (each member among) spaceAfter ends
    exact (agrees_afterColon spaceBefore value).map (object.put name)

theorem settled_array {items : List (List UInt8)}
    (h : ItemsOf (· = ·) true items bytes) (starts : ∀ item ∈ items, Starts item)
    (each : ∀ item ∈ items, Settled budget item) : Settled (budget + 1) (0x5B :: bytes) := by
  obtain ⟨expected, read⟩ := exists_agrees_readItems h starts each
  exact ⟨expected.map Value.array, fun {_ rest} spaces _ =>
    agrees_readValue_items spaces (read rest)⟩

/-- What an object comes to is settled for two readers at once: one for any value, and one that is
given for objects alone. -/
theorem exists_agrees_object {members : List (List UInt8 × List UInt8)}
    (h : MembersOf (· = ·) (· = ·) true members bytes)
    (names : ∀ member ∈ members, LettersText member.1)
    (each : ∀ member ∈ members, Settled budget member.2) :
    ∃ expected : Except Cause Object, ∀ {space rest : List UInt8}, Space space →
      Agrees (readObject budget (space ++ (0x7B :: bytes ++ rest))) expected rest ∧
      Agrees (readValue (budget + 1) (space ++ (0x7B :: bytes ++ rest)))
        (expected.map Object.toValue) rest := by
  obtain ⟨expected, read⟩ := exists_agrees_readMembers h names each
  exact ⟨expected, fun {_ rest} spaces => ⟨agrees_readObject_members spaces (read rest),
    agrees_readValue_members spaces (read rest)⟩⟩

end Containers

theorem ValueText.settled {text : List UInt8} (h : ValueText text) (budget : Nat) :
    Settled budget text := by
  induction h generalizing budget with
  | null => exact scalarSettled_null.settled budget
  | yes => exact scalarSettled_true.settled budget
  | no => exact scalarSettled_false.settled budget
  | number h => exact h.scalarSettled.settled budget
  | string h => exact h.scalarSettled.settled budget
  | array texts written ih =>
    cases budget with
    | zero =>
      exact ⟨.error .tooDeep, fun spaces _ => agrees_readValue_zero (.inl rfl) spaces _ _⟩
    | succ budget =>
      exact settled_array written (fun item among => (texts item among).starts)
        fun item among => ih item among budget
  | object names _ written ih =>
    cases budget with
    | zero =>
      exact ⟨.error .tooDeep, fun spaces _ => agrees_readValue_zero (.inr rfl) spaces _ _⟩
    | succ budget =>
      obtain ⟨expected, read⟩ :=
        exists_agrees_object written names fun member among => ih member among budget
      exact ⟨expected.map Object.toValue, fun spaces _ => (read spaces).2⟩

/-! ### Objects -/

/-- What an object comes to inside a document is what it comes to on its own, as long as it may be
nested no deeper there. -/
theorem ObjectText.exists_agrees_readObject {text : List UInt8} (h : ObjectText text) {budget : Nat}
    (fits : budget < depthLimit) :
    ∃ expected : Except Cause Object, (∀ {space rest : List UInt8}, Space space →
      Agrees (readObject budget (space ++ (text ++ rest))) expected rest) ∧
      ∀ object, expected = .ok object → parse text = .ok object.toValue := by
  obtain ⟨members, bytes, rfl, names, values, written⟩ := h.exists_members
  obtain ⟨expected, read⟩ := exists_agrees_object written names
    fun member among => (values member among).settled budget
  refine ⟨expected, fun spaces => (read spaces).1, ?_⟩
  rintro object rfl
  have taken : Agrees (readValue (budget + 1) ([] ++ (0x7B :: bytes ++ []))) _ [] :=
    (read space_nil).2
  rw [List.nil_append, List.append_nil] at taken
  exact Reader.readAll_of_takes ((extends_readValue fits).takes taken) space_nil .whole

end NaturalKey.Json
