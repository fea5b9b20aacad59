import NaturalKey.Text

/-!
Texts without the white space at their ends. White space that is added there is taken off again, and
what is left is blank only if it is empty.
-/

set_option autoImplicit false

namespace NaturalKey.Text

def AllSpace (chars : List Char) : Prop :=
  ∀ c ∈ chars, isSpace c = true

theorem isBlank_iff {text : String} : isBlank text = true ↔ AllSpace text.toList := by
  simp [isBlank, AllSpace]

theorem allSpace_append {chars more : List Char} :
    AllSpace (chars ++ more) ↔ AllSpace chars ∧ AllSpace more := by
  simp only [AllSpace, List.forall_mem_append]

theorem allSpace_reverse {chars : List Char} : AllSpace chars.reverse ↔ AllSpace chars := by
  simp only [AllSpace, List.mem_reverse]

/-! ### At the start -/

theorem trimStart_append {space : List Char} (h : AllSpace space) (chars : List Char) :
    trimStart (space ++ chars) = trimStart chars := by
  induction space with
  | nil => rfl
  | cons c space ih =>
    have others : AllSpace space := fun d member => h d (List.mem_cons_of_mem _ member)
    rw [List.cons_append, trimStart, List.dropWhile_cons, if_pos (h c List.mem_cons_self)]
    exact ih others

theorem trimStart_of_allSpace {chars : List Char} (h : AllSpace chars) : trimStart chars = [] := by
  have trimmed := trimStart_append h []
  rwa [List.append_nil] at trimmed

theorem trimStart_append_of_not_allSpace {chars : List Char} (h : ¬AllSpace chars)
    (more : List Char) : trimStart (chars ++ more) = trimStart chars ++ more := by
  induction chars with
  | nil => exact absurd (by simp [AllSpace]) h
  | cons c chars ih =>
    rw [List.cons_append, trimStart, trimStart, List.dropWhile_cons, List.dropWhile_cons]
    cases space : isSpace c with
    | true =>
      apply ih
      intro others
      apply h
      intro d member
      rcases List.mem_cons.mp member with rfl | member
      · exact space
      · exact others d member
    | false => rfl

theorem trimStart_eq_nil_of_allSpace {chars : List Char} (h : AllSpace (trimStart chars)) :
    trimStart chars = [] := by
  induction chars with
  | nil => rfl
  | cons c chars ih =>
    rw [trimStart, List.dropWhile_cons] at h ⊢
    cases space : isSpace c with
    | true =>
      rw [space] at h
      exact ih h
    | false =>
      rw [space] at h
      have first : isSpace c = true := h c List.mem_cons_self
      rw [space] at first
      cases first

/-! ### At the end -/

theorem trimEnd_eq_reverse (chars : List Char) :
    trimEnd chars = (trimStart chars.reverse).reverse := rfl

theorem trimEnd_append {space : List Char} (h : AllSpace space) (chars : List Char) :
    trimEnd (chars ++ space) = trimEnd chars := by
  rw [trimEnd_eq_reverse, List.reverse_append, trimStart_append (allSpace_reverse.mpr h),
    trimEnd_eq_reverse]

theorem exists_trimEnd_append (chars : List Char) :
    ∃ space, AllSpace space ∧ chars = trimEnd chars ++ space := by
  refine ⟨(chars.reverse.takeWhile isSpace).reverse, ?_, ?_⟩
  · intro c member
    exact List.all_eq_true.mp List.all_takeWhile c (List.mem_reverse.mp member)
  · rw [trimEnd, ← List.reverse_append, List.takeWhile_append_dropWhile, List.reverse_reverse]

/-! ### At both ends -/

/-- White space around a text does not count. -/
theorem trim_pad {before after : String} (h : isBlank before = true) (h' : isBlank after = true)
    (text : String) : trim (before ++ text ++ after) = trim text := by
  have spaceBefore := isBlank_iff.mp h
  have spaceAfter := isBlank_iff.mp h'
  rw [trim, String.toList_append, String.toList_append, List.append_assoc,
    trimStart_append spaceBefore, trim]
  by_cases blank : AllSpace text.toList
  · rw [trimStart_of_allSpace blank,
      trimStart_of_allSpace (allSpace_append.mpr ⟨blank, spaceAfter⟩)]
  · rw [trimStart_append_of_not_allSpace blank, trimEnd_append spaceAfter]

theorem exists_trim_pad (text : String) :
    ∃ before after, isBlank before = true ∧ isBlank after = true ∧
      text = before ++ trim text ++ after := by
  obtain ⟨space, spaceAfter, rest⟩ := exists_trimEnd_append (trimStart text.toList)
  have spaceBefore : AllSpace (text.toList.takeWhile isSpace) :=
    fun c member => List.all_eq_true.mp List.all_takeWhile c member
  refine ⟨String.ofList (text.toList.takeWhile isSpace), String.ofList space, ?_, ?_, ?_⟩
  · rwa [isBlank_iff, String.toList_ofList]
  · rwa [isBlank_iff, String.toList_ofList]
  · apply String.toList_inj.mp
    rw [String.toList_append, String.toList_append, toList_trim, String.toList_ofList,
      String.toList_ofList, List.append_assoc, ← rest, trimStart, List.takeWhile_append_dropWhile]

theorem trim_trim (text : String) : trim (trim text) = trim text := by
  obtain ⟨before, after, spaceBefore, spaceAfter, same⟩ := exists_trim_pad text
  have padded := trim_pad spaceBefore spaceAfter (trim text)
  rw [← same] at padded
  exact padded.symm

/-- A text without the white space at its ends is blank only if it is empty. -/
theorem isBlank_trim_iff {text : String} : isBlank (trim text) = true ↔ trim text = "" := by
  constructor
  · intro blank
    rw [isBlank_iff, toList_trim] at blank
    obtain ⟨space, spaces, equal⟩ := exists_trimEnd_append (trimStart text.toList)
    have nothing : trimStart text.toList = [] := by
      apply trimStart_eq_nil_of_allSpace
      rw [equal]
      exact allSpace_append.mpr ⟨blank, spaces⟩
    rw [trim, nothing]
    rfl
  · intro empty
    rw [empty]
    rfl

theorem trim_eq_self {text : String} (first : ∀ c, text.toList.head? = some c → isSpace c = false)
    (last : ∀ c, text.toList.getLast? = some c → isSpace c = false) : trim text = text := by
  have start (chars : List Char) (first : ∀ c, chars.head? = some c → isSpace c = false) :
      trimStart chars = chars := by
    cases chars with
    | nil => rfl
    | cons c chars => simp [trimStart, first c rfl]
  apply String.toList_inj.mp
  rw [toList_trim, start _ first, trimEnd_eq_reverse, start, List.reverse_reverse]
  rwa [List.head?_reverse]

theorem isBlank_append (text more : String) :
    isBlank (text ++ more) = (isBlank text && isBlank more) := by
  unfold isBlank
  rw [String.toList_append, List.all_append]

@[simp]
theorem isBlank_trim (text : String) : isBlank (trim text) = isBlank text := by
  obtain ⟨before, after, blank, blank', same⟩ := exists_trim_pad text
  calc isBlank (trim text)
      = isBlank (before ++ trim text ++ after) := by
        simp only [isBlank_append, blank, blank', Bool.true_and, Bool.and_true]
    _ = isBlank text := congrArg isBlank same.symm

theorem trim_eq_empty_iff {text : String} : trim text = "" ↔ isBlank text = true := by
  rw [← isBlank_trim_iff, isBlank_trim]

theorem trim_ne_empty {text : String} (h : isBlank text = false) : trim text ≠ "" := by
  apply mt trim_eq_empty_iff.mp
  rw [h]
  exact Bool.false_ne_true

/-! ### What stands between white space -/

theorem trimStart_of_trim_eq_self {text : String} (bare : trim text = text) :
    trimStart text.toList = text.toList := by
  obtain ⟨space, -, rest⟩ := exists_trimEnd_append (trimStart text.toList)
  rw [← toList_trim, bare] at rest
  have whole : text.toList.takeWhile isSpace ++ trimStart text.toList = text.toList :=
    List.takeWhile_append_dropWhile
  rw [rest] at whole
  have lengths := congrArg List.length whole
  simp only [List.length_append] at lengths
  have nothing : space = [] := List.eq_nil_of_length_eq_zero (by omega)
  rw [rest, nothing, List.append_nil]

/-- Where white space ends and where it begins again is seen from the whole. -/
theorem pad_inj {before text after before' text' after' : String}
    (space : isBlank before = true) (spaceAfter : isBlank after = true)
    (space' : isBlank before' = true) (spaceAfter' : isBlank after' = true)
    (bare : trim text = text) (bare' : trim text' = text') (nonempty : text ≠ "")
    (same : before ++ text ++ after = before' ++ text' ++ after') :
    before = before' ∧ text = text' ∧ after = after' := by
  have inner : text = text' := by
    rw [← bare, ← bare', ← trim_pad space spaceAfter text,
      ← trim_pad space' spaceAfter' text', same]
  subst inner
  have notSpace : ¬AllSpace text.toList := by
    intro blank
    rw [← isBlank_iff, ← trim_eq_empty_iff, bare] at blank
    exact nonempty blank
  have start {before after : String} (space : isBlank before = true) :
      trimStart (before ++ text ++ after).toList = text.toList ++ after.toList := by
    rw [String.toList_append, String.toList_append, List.append_assoc,
      trimStart_append (isBlank_iff.mp space), trimStart_append_of_not_allSpace notSpace,
      trimStart_of_trim_eq_self bare]
  have rest : text.toList ++ after.toList = text.toList ++ after'.toList := by
    rw [← start space, same, start space']
  obtain rfl : after = after' := String.toList_inj.mp (List.append_cancel_left rest)
  have chars := congrArg String.toList same
  simp only [String.toList_append, List.append_assoc] at chars
  exact ⟨String.toList_inj.mp (List.append_cancel_right chars), rfl, rfl⟩

end NaturalKey.Text
