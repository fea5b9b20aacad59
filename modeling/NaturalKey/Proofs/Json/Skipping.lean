import NaturalKey.Json.Skip
import NaturalKey.Proofs.Json.Settled.Number
import NaturalKey.Proofs.Json.Settled.String

/-!
Values that are passed over. Every text of the grammar is, from its first byte to its last one:
numbers of any size, strings that are no text, and brackets nested as deeply as they like.
-/

set_option autoImplicit false

namespace NaturalKey.Json

def Leaves {bound : Nat} (outcome : Except Stop (Left bound)) (rest : List UInt8) : Prop :=
  ∃ le, outcome = .ok ⟨rest, le⟩

theorem Leaves.map {m n : Nat} {outcome : Except Stop (Left m)} {rest : List UInt8}
    (h : Leaves outcome rest) (le : ∀ left : Left m, left.1.length ≤ n) :
    Leaves (outcome.map fun left => ⟨left.1, le left⟩) rest := by
  obtain ⟨shorter, rfl⟩ := h
  exact ⟨le ⟨rest, shorter⟩, rfl⟩

/-! ### Numbers -/

section Numbers

variable {rest : List UInt8}

theorem leaves_skipExponentDigits {bytes : List UInt8} (h : DigitsText bytes)
    (ends : startsWithDigit rest = false) : Leaves (skipExponentDigits (bytes ++ rest)) rest := by
  obtain ⟨nonempty, allDigits⟩ := h
  cases bytes with
  | nil => contradiction
  | cons b more =>
    have digit : isDigit b = true := allDigits b List.mem_cons_self
    have others :=
      dropDigits_append (fun c member => allDigits c (List.mem_cons_of_mem _ member)) ends
    simp only [List.cons_append, skipExponentDigits, digit, if_true, others]
    exact ⟨_, rfl⟩

theorem leaves_skipExponent {bytes : List UInt8} (h : ExponentText bytes)
    (ends : EndsNumeral rest) :
    Leaves (skipExponent (bytes ++ rest)) rest := by
  cases h with
  | none =>
    cases rest with
    | nil => exact ⟨_, rfl⟩
    | cons b more =>
      obtain ⟨-, -, notLetter⟩ := ends b more rfl
      simp only [List.nil_append, skipExponent, notLetter, Bool.false_eq_true, if_false]
      exact ⟨_, rfl⟩
  | @some letter _ sign digits isLetter signed some =>
    have skipped := leaves_skipExponentDigits some ends.startsWithDigit
    simp only [List.cons_append, List.append_assoc, skipExponent, isLetter, if_true]
    cases signed with
    | minus => exact skipped.map _
    | plus => exact skipped.map _
    | none =>
      cases digits with
      | nil => exact absurd rfl some.nonempty
      | cons b more =>
        have digit : isDigit b = true := some.allDigits b List.mem_cons_self
        have unsigned : ¬(b = 0x2B ∨ b = 0x2D) := by
          rintro (rfl | rfl) <;> exact absurd digit (by decide)
        simp only [List.nil_append, List.cons_append, if_neg unsigned]
        exact skipped.map _

theorem leaves_skipFraction {fraction tail : List UInt8} (h : FractionText fraction)
    (exponentText : ExponentText tail) (ends : EndsNumeral rest) :
    Leaves (skipFraction (fraction ++ (tail ++ rest))) rest := by
  have exponent := leaves_skipExponent exponentText ends
  cases h with
  | none =>
    rw [List.nil_append]
    cases bytes : tail ++ rest with
    | nil =>
      rw [bytes] at exponent
      exact exponent
    | cons b more =>
      have notPoint : b ≠ 0x2E := by
        cases exponentText with
        | none => exact (ends b more bytes).2.1
        | some letter _ _ =>
          obtain ⟨rfl, -⟩ := List.cons.inj bytes
          exact (isDigit_eq_false_of_isExponentLetter letter).2
      rw [bytes] at exponent
      rw [skipFraction, if_neg notPoint]
      exact exponent
  | @some digits some =>
    have digit : startsWithDigit (digits ++ (tail ++ rest)) = true := by
      obtain ⟨nonempty, allDigits⟩ := some
      cases digits with
      | nil => contradiction
      | cons b more => exact allDigits b List.mem_cons_self
    have others := dropDigits_append some.allDigits (exponentText.startsWithDigit_append ends)
    rw [← others] at exponent
    simp only [List.cons_append, skipFraction, if_true, digit]
    exact exponent.map _

theorem takes_skipNumeral {whole fraction tail : List UInt8} (wholeText : WholeText whole)
    (fractionText : FractionText fraction) (exponentText : ExponentText tail)
    (ends : EndsNumeral rest) :
    Takes (skipNumeral (whole ++ (fraction ++ (tail ++ rest)))) () rest := by
  have noDigit := fractionText.startsWithDigit_append exponentText ends
  have skipped := leaves_skipFraction fractionText exponentText ends
  cases wholeText with
  | zero =>
    obtain ⟨le, skipped⟩ := skipped
    rw [List.singleton_append, skipNumeral, if_pos rfl, if_neg (by rw [noDigit]; decide), skipped]
    exact ⟨_, rfl⟩
  | digits digit notZero more =>
    rw [← dropDigits_append more noDigit] at skipped
    obtain ⟨le, skipped⟩ := skipped
    rw [List.cons_append, skipNumeral, if_neg notZero, if_pos digit, skipped]
    exact ⟨_, rfl⟩

end Numbers

/-! ### Strings -/

section Strings

variable {letters : List UInt8} {bound : Nat}

theorem takes_skipEscaped_letter {letter : UInt8}
    (known : letter ∈ [0x22, 0x5C, 0x2F, 0x62, 0x66, 0x6E, 0x72, 0x74]) (rest : List UInt8) :
    Takes (skipEscaped (letter :: rest)) () rest := by
  have standsFor := isSome_simpleEscape? known
  simp only [skipEscaped, standsFor, if_true]
  exact ⟨_, rfl⟩

theorem takes_skipEscaped_number {w x y z : UInt8} (first : IsHexDigit w) (second : IsHexDigit x)
    (third : IsHexDigit y) (fourth : IsHexDigit z) (rest : List UInt8) :
    Takes (skipEscaped (0x75 :: w :: x :: y :: z :: rest)) () rest := by
  have noLetter : (simpleEscape? 0x75).isSome = false := by decide
  obtain ⟨n, value⟩ := exists_hexNumber? first second third fourth
  obtain ⟨shorter, taken⟩ := takes_hexNumber value rest
  simp only [skipEscaped, noLetter, Bool.false_eq_true, if_false, if_true, taken]
  exact ⟨_, rfl⟩

theorem LettersText.takes_skipString (h : LettersText letters) {rest : List UInt8}
    (le : (letters ++ 0x22 :: rest).length ≤ bound) :
    Takes (skipString (letters ++ 0x22 :: rest) le) () rest := by
  induction h with
  | nil =>
    simp only [List.nil_append]
    rw [skipString]
    exact ⟨_, rfl⟩
  | @cons letter more single others ih =>
    cases single with
    | plain notQuote notBackslash notControl =>
      simp only [List.cons_append, List.nil_append] at le ⊢
      rw [skipString, if_neg notQuote, if_neg notBackslash, if_neg (Nat.not_lt.mpr notControl)]
      exact ih _
    | escape known =>
      obtain ⟨shorter, taken⟩ := takes_skipEscaped_letter known (more ++ 0x22 :: rest)
      simp only [List.cons_append, List.nil_append] at le ⊢
      rw [skipString]
      simp only [taken]
      exact ih _
    | number first second third fourth =>
      obtain ⟨shorter, taken⟩ :=
        takes_skipEscaped_number first second third fourth (more ++ 0x22 :: rest)
      simp only [List.cons_append, List.nil_append] at le ⊢
      rw [skipString]
      simp only [taken]
      exact ih _

end Strings

/-! ### Scalars -/

def SkipsScalar (b : UInt8) (bytes rest : List UInt8) : Prop :=
  ∃ outcome, skipScalar b bytes = some outcome ∧ Leaves outcome rest

theorem NumberText.exists_skipsScalar {text : List UInt8} (h : NumberText text) {rest : List UInt8}
    (ends : EndsNumeral rest) :
    ∃ b more, text = b :: more ∧ isSpace b = false ∧ SkipsScalar b (more ++ rest) rest := by
  cases h with
  | @parts negative whole fraction exponent wholeText fractionText exponentText =>
    have skipped := takes_skipNumeral wholeText fractionText exponentText ends
    cases negative with
    | true =>
      obtain ⟨shorter, skipped⟩ := skipped
      refine ⟨0x2D, whole ++ (fraction ++ exponent), rfl, by decide, ?_⟩
      rw [List.append_assoc, List.append_assoc]
      refine ⟨_, rfl, ?_⟩
      rw [skipped]
      exact ⟨_, rfl⟩
    | false =>
      obtain ⟨b, more, rfl, digit⟩ := wholeText.exists_first
      have notLetter : b ≠ 0x6E ∧ b ≠ 0x74 ∧ b ≠ 0x66 ∧ b ≠ 0x2D := by
        refine ⟨?_, ?_, ?_, ?_⟩ <;> rintro rfl <;> exact absurd digit (by decide)
      obtain ⟨notNull, notTrue, notFalse, notMinus⟩ := notLetter
      rw [List.cons_append] at skipped
      obtain ⟨shorter, skipped⟩ := skipped
      refine ⟨b, more ++ (fraction ++ exponent), rfl, (not_isSpace_of_isDigit digit).1, ?_⟩
      rw [List.append_assoc, List.append_assoc]
      simp only [SkipsScalar, skipScalar, if_neg notNull, if_neg notTrue, if_neg notFalse,
        if_neg notMinus, digit, if_true]
      refine ⟨_, rfl, ?_⟩
      rw [skipped]
      exact ⟨_, rfl⟩

theorem LettersText.skipsScalar {letters : List UInt8} (h : LettersText letters)
    (rest : List UInt8) : SkipsScalar 0x22 (letters ++ 0x22 :: rest) rest := by
  obtain ⟨shorter, skipped⟩ := h.takes_skipString (length_le (letters ++ 0x22 :: rest))
  refine ⟨_, rfl, ?_⟩
  rw [skipped]
  exact ⟨_, rfl⟩

/-! ### Values -/

def Skips (text : List UInt8) : Prop :=
  ∀ {space rest : List UInt8}, Space space → EndsNumeral rest →
    Takes (skipValue (space ++ (text ++ rest))) () rest

theorem SkipsScalar.takes_skipValue {space : List UInt8} (spaces : Space space) {b : UInt8}
    (token : isSpace b = false) {bytes rest : List UInt8} (h : SkipsScalar b bytes rest) :
    Takes (skipValue (space ++ b :: bytes)) () rest := by
  obtain ⟨le, found⟩ := afterSpace_append spaces token bytes
  obtain ⟨outcome, scalar, shorter, rfl⟩ := h
  rw [skipValue]
  simp only [found, scalar]
  exact ⟨_, rfl⟩

section Containers

variable {first : Bool} {bytes : List UInt8}

theorem takes_skipItems {items : List (List UInt8)} (h : ItemsOf (· = ·) first items bytes)
    (starts : ∀ item ∈ items, Starts item) (each : ∀ item ∈ items, Skips item) (rest : List UInt8) :
    Takes (skipItems first (bytes ++ rest)) () rest := by
  induction items generalizing first bytes with
  | nil =>
    cases h with
    | @close _ space spaces =>
      obtain ⟨le, found⟩ := afterSpace_append spaces (b := 0x5D) (by decide) rest
      rw [List.append_assoc, List.singleton_append, skipItems]
      simp only [found, if_true]
      exact ⟨_, rfl⟩
  | cons item items ih =>
    cases h with
    | @more _ _ _ lead _ others leads same written =>
      subst same
      obtain ⟨b, more, rfl, token, notEnd⟩ := starts item List.mem_cons_self
      have skips : Skips (b :: more) := each _ List.mem_cons_self
      obtain ⟨shorter', skippedOthers⟩ := ih written
        (fun other member => starts other (List.mem_cons_of_mem _ member))
        (fun other member => each other (List.mem_cons_of_mem _ member))
      cases leads with
      | first space =>
        obtain ⟨le, found⟩ := afterSpace_append space token (more ++ (others ++ rest))
        obtain ⟨shorter, skipped⟩ := skips space_nil (written.endsNumeral rest)
        rw [List.append_assoc, List.append_assoc, List.cons_append, skipItems]
        simp only [found, if_neg notEnd, if_true]
        simp only [List.nil_append, List.cons_append] at shorter skipped
        simp only [skipped, skippedOthers]
        exact ⟨_, rfl⟩
      | @comma before after spaceBefore spaceAfter =>
        obtain ⟨le, found⟩ := afterSpace_append spaceBefore (b := 0x2C) (by decide)
          (after ++ (b :: more ++ (others ++ rest)))
        obtain ⟨shorter, skipped⟩ := skips spaceAfter (written.endsNumeral rest)
        rw [List.append_assoc, List.append_assoc, List.append_assoc, List.cons_append, skipItems]
        simp only [found, skipped, skippedOthers]
        exact ⟨_, rfl⟩

theorem takes_skipName {space letters before : List UInt8} (spaces : Space space)
    (h : LettersText letters) (spaceBefore : Space before) (rest : List UInt8) :
    Takes (skipName (space ++ 0x22 :: (letters ++ 0x22 :: (before ++ 0x3A :: rest)))) () rest := by
  obtain ⟨le, found⟩ := afterSpace_append spaces (b := 0x22) (by decide)
    (letters ++ 0x22 :: (before ++ 0x3A :: rest))
  have letters :
      Takes (skipString (letters ++ 0x22 :: (before ++ 0x3A :: rest)) (length_le _)) () _ :=
    h.takes_skipString _
  obtain ⟨shorter, skipped⟩ := letters
  obtain ⟨shorter', taken⟩ := takes_colon spaceBefore rest
  simp only [skipName, found, if_true, skipped, taken]
  exact ⟨_, rfl⟩

theorem takes_skipMembers_more {b : UInt8} {more bytes' bytes'' rest : List UInt8}
    {le : (b :: more).length ≤ bytes.length} (found : afterSpace bytes = ⟨b :: more, le⟩)
    (notEnd : b ≠ 0x7D) (leads : first = true ∨ b = 0x2C)
    (name : Takes (skipName (if first then b :: more else more)) () bytes')
    (value : Takes (skipValue bytes') () bytes'')
    (others : Takes (skipMembers false bytes'') () rest) :
    Takes (skipMembers first bytes) () rest := by
  obtain ⟨shorter, skippedName⟩ := name
  obtain ⟨shorter', skippedValue⟩ := value
  obtain ⟨shorter'', skippedOthers⟩ := others
  rw [skipMembers]
  simp only [found, if_neg notEnd, if_pos leads, skippedName, skippedValue, skippedOthers]
  exact ⟨_, rfl⟩

theorem takes_skipMembers {members : List (List UInt8 × List UInt8)}
    (h : MembersOf (· = ·) (· = ·) first members bytes)
    (names : ∀ member ∈ members, LettersText member.1)
    (each : ∀ member ∈ members, Skips member.2) (rest : List UInt8) :
    Takes (skipMembers first (bytes ++ rest)) () rest := by
  induction members generalizing first bytes with
  | nil =>
    cases h with
    | @close _ space spaces =>
      obtain ⟨le, found⟩ := afterSpace_append spaces (b := 0x7D) (by decide) rest
      rw [List.append_assoc, List.singleton_append, skipMembers]
      simp only [found, if_true]
      exact ⟨_, rfl⟩
  | cons member members ih =>
    cases h with
    | @more _ letters text _ lead _ before after _ others leads sameName spaceBefore spaceAfter
        sameText written =>
      subst sameName sameText
      have value := each _ List.mem_cons_self spaceAfter (written.endsNumeral rest)
      have skippedOthers := ih written
        (fun other among => names other (List.mem_cons_of_mem _ among))
        (fun other among => each other (List.mem_cons_of_mem _ among))
      have name {space : List UInt8} (spaces : Space space) := takes_skipName spaces
        (names _ List.mem_cons_self) spaceBefore (after ++ (text ++ (others ++ rest)))
      simp only at value name
      have order :
          lead ++ 0x22 :: (letters ++ 0x22 :: (before ++ 0x3A :: (after ++ (text ++ others)))) ++
              rest =
            lead ++ 0x22 ::
              (letters ++ 0x22 :: (before ++ 0x3A :: (after ++ (text ++ (others ++ rest))))) := by
        simp
      rw [order]
      cases leads with
      | first space =>
        obtain ⟨le, found⟩ := afterSpace_append space (b := 0x22) (by decide)
          (letters ++ 0x22 :: (before ++ 0x3A :: (after ++ (text ++ (others ++ rest)))))
        exact takes_skipMembers_more found (by decide) (.inl rfl) (name space_nil) value
          skippedOthers
      | @comma spaceLead space spacesLead spaces =>
        obtain ⟨le, found⟩ := afterSpace_append spacesLead (b := 0x2C) (by decide) (space ++
          0x22 :: (letters ++ 0x22 :: (before ++ 0x3A :: (after ++ (text ++ (others ++ rest))))))
        rw [List.append_assoc, List.cons_append]
        exact takes_skipMembers_more found (by decide) (.inr rfl) (name spaces) value skippedOthers

end Containers

/-- A text of the grammar is passed over, and nothing of what follows it. -/
theorem ValueText.skips {text : List UInt8} (h : ValueText text) : Skips text := by
  induction h with
  | null =>
    intro space rest spaces _
    have skipped : SkipsScalar 0x6E ([0x75, 0x6C, 0x6C] ++ rest) rest := ⟨_, rfl, _, rfl⟩
    exact skipped.takes_skipValue spaces (by decide)
  | yes =>
    intro space rest spaces _
    have skipped : SkipsScalar 0x74 ([0x72, 0x75, 0x65] ++ rest) rest := ⟨_, rfl, _, rfl⟩
    exact skipped.takes_skipValue spaces (by decide)
  | no =>
    intro space rest spaces _
    have skipped : SkipsScalar 0x66 ([0x61, 0x6C, 0x73, 0x65] ++ rest) rest := ⟨_, rfl, _, rfl⟩
    exact skipped.takes_skipValue spaces (by decide)
  | number h =>
    intro space rest spaces ends
    obtain ⟨b, more, rfl, token, skipped⟩ := h.exists_skipsScalar ends
    exact skipped.takes_skipValue spaces token
  | @string letters h =>
    intro space rest spaces _
    rw [List.cons_append, List.append_assoc, List.singleton_append]
    exact (h.skipsScalar rest).takes_skipValue spaces (by decide)
  | @array items bytes texts written ih =>
    intro space rest spaces _
    obtain ⟨le, found⟩ := afterSpace_append spaces (b := 0x5B) (by decide) (bytes ++ rest)
    obtain ⟨shorter, skipped⟩ :=
      takes_skipItems written (fun item among => (texts item among).starts) ih rest
    have noScalar : skipScalar 0x5B (bytes ++ rest) = none := rfl
    rw [List.cons_append, skipValue]
    simp only [found, noScalar, if_true, skipped]
    exact ⟨_, rfl⟩
  | @object members bytes names _ written ih =>
    intro space rest spaces _
    obtain ⟨le, found⟩ := afterSpace_append spaces (b := 0x7B) (by decide) (bytes ++ rest)
    obtain ⟨shorter, skipped⟩ := takes_skipMembers written names ih rest
    have noScalar : skipScalar 0x7B (bytes ++ rest) = none := rfl
    have noBracket : ¬(0x7B : UInt8) = 0x5B := by decide
    rw [List.cons_append, skipValue]
    simp only [found, noScalar, if_neg noBracket, if_true, skipped]
    exact ⟨_, rfl⟩

end NaturalKey.Json
