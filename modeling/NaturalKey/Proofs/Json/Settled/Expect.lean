import NaturalKey.Json.Document
import NaturalKey.Proofs.Json.Settled.Value

/-!
A value of one kind is settled as well. Where another kind of value stands its text says what is
found instead, and that is the cause of the failure everywhere.
-/

set_option autoImplicit false

namespace NaturalKey.Json

/-- The reader comes to the same with the text, whatever stands around it. -/
def SettledBy {α : Type} (reader : Reader α) (text : List UInt8) : Prop :=
  ∃ expected, ∀ {space rest : List UInt8}, Space space → EndsNumeral rest →
    Agrees (reader (space ++ (text ++ rest))) expected rest

/-- What starts with this byte is a value of another kind, the same whatever follows it. -/
def Mismatched (b : UInt8) (more : List UInt8) : Prop :=
  ∀ wanted, ∃ cause, ∀ {α : Type} {rest : List UInt8}, EndsNumeral rest →
    ∃ stop, (mismatch wanted b (more ++ rest) : Except Stop α) = .error stop ∧ stop.cause = cause

theorem mismatched_of_agreesScalar {b : UInt8} {more : List UInt8} {expected : Except Cause Scalar}
    (read : ∀ {rest : List UInt8}, EndsNumeral rest → AgreesScalar b (more ++ rest) expected rest) :
    Mismatched b more := by
  intro wanted
  cases expected with
  | error cause =>
    refine ⟨cause, fun ends => ?_⟩
    obtain ⟨outcome, scalar, stop, rfl, same⟩ := read ends
    exact ⟨stop, by simp only [mismatch, scalar], same⟩
  | ok found =>
    refine ⟨.wrongKind (.scalar found) wanted, fun {α rest} ends => ?_⟩
    obtain ⟨outcome, scalar, shorter, rfl⟩ := read ends
    cases found with
    | number n => exact ⟨_, by simp only [mismatch, scalar]; rfl, rfl⟩
    | _ => exact ⟨_, by simp only [mismatch, scalar]; rfl, rfl⟩

theorem mismatched_array (bytes : List UInt8) : Mismatched 0x5B bytes :=
  fun wanted => ⟨.wrongKind .array wanted, fun _ => ⟨_, rfl, rfl⟩⟩

theorem mismatched_object (bytes : List UInt8) : Mismatched 0x7B bytes :=
  fun wanted => ⟨.wrongKind .object wanted, fun _ => ⟨_, rfl, rfl⟩⟩

/-- Every value starts with a byte that tells what it is. -/
theorem ValueText.exists_mismatched {text : List UInt8} (h : ValueText text) :
    ∃ b more, text = b :: more ∧ isSpace b = false ∧ Mismatched b more := by
  have scalar {text : List UInt8} (settled : ScalarSettled text) :
      ∃ b more, text = b :: more ∧ isSpace b = false ∧ Mismatched b more := by
    obtain ⟨b, more, rfl, token, _, read⟩ := settled
    exact ⟨b, more, rfl, token, mismatched_of_agreesScalar read⟩
  cases h with
  | null => exact scalar scalarSettled_null
  | yes => exact scalar scalarSettled_true
  | no => exact scalar scalarSettled_false
  | number h => exact scalar h.scalarSettled
  | string h => exact scalar h.scalarSettled
  | array _ _ => exact ⟨_, _, rfl, by decide, mismatched_array _⟩
  | object _ _ _ => exact ⟨_, _, rfl, by decide, mismatched_object _⟩

theorem Mismatched.settledBy_readString {b : UInt8} {more : List UInt8} (h : Mismatched b more)
    (token : isSpace b = false) (notQuote : b ≠ 0x22) : SettledBy readString (b :: more) := by
  obtain ⟨cause, failing⟩ := h .string
  refine ⟨.error cause, fun {space rest} spaces ends => ?_⟩
  obtain ⟨le, found⟩ := afterSpace_append spaces token (more ++ rest)
  simp only [List.cons_append, readString, found, if_neg notQuote]
  exact failing ends

theorem Mismatched.settledBy_readObject {b : UInt8} {more : List UInt8} (h : Mismatched b more)
    (token : isSpace b = false) (notBrace : b ≠ 0x7B) (budget : Nat) :
    SettledBy (readObject budget) (b :: more) := by
  obtain ⟨cause, failing⟩ := h .object
  refine ⟨.error cause, fun {space rest} spaces ends => ?_⟩
  obtain ⟨le, found⟩ := afterSpace_append spaces token (more ++ rest)
  simp only [List.cons_append, readObject, readObjectOf, found, if_neg notBrace]
  exact failing ends

theorem LettersText.settledBy_readString {letters : List UInt8} (h : LettersText letters) :
    SettledBy readString (0x22 :: (letters ++ [0x22])) := by
  obtain ⟨expected, read⟩ := h.exists_agrees_stringRest
  refine ⟨expected, fun {space rest} spaces _ => ?_⟩
  obtain ⟨le, found⟩ := afterSpace_append spaces (b := 0x22) (by decide) (letters ++ 0x22 :: rest)
  have outcome := (read rest).weaken (length_le_of_cons_le le)
  rw [List.cons_append, List.append_assoc, List.singleton_append]
  simp only [readString, found, if_true]
  generalize stringRest (letters ++ 0x22 :: rest) = read at outcome ⊢
  cases read with
  | error stop => exact outcome
  | ok step => exact outcome

theorem ValueText.settledBy_readString {text : List UInt8} (h : ValueText text) :
    SettledBy readString text := by
  obtain ⟨b, more, rfl, token, mismatched⟩ := h.exists_mismatched
  by_cases quote : b = 0x22
  · obtain ⟨letters, same, text⟩ := h.exists_letters (congrArg some quote)
    rw [same]
    exact text.settledBy_readString
  · exact mismatched.settledBy_readString token quote

theorem ValueText.settledBy_readObject {text : List UInt8} (h : ValueText text) (budget : Nat) :
    SettledBy (readObject budget) text := by
  obtain ⟨b, more, rfl, token, mismatched⟩ := h.exists_mismatched
  by_cases brace : b = 0x7B
  · have object : ObjectText (b :: more) := ⟨h, congrArg some brace⟩
    obtain ⟨members, bytes, same, names, values, written⟩ := object.exists_members
    rw [same]
    obtain ⟨expected, read⟩ := exists_agrees_object written names
      fun member among => (values member among).settled budget
    exact ⟨expected, fun spaces _ => (read spaces).1⟩
  · exact mismatched.settledBy_readObject token brace budget

end NaturalKey.Json
