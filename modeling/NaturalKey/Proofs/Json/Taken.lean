import NaturalKey.Proofs.Json.Spelling

/-!
What has been read was spelled. A string is read from the texts that spell it and from no others,
and so are the members of an object. Between its quotes a character of several bytes stands byte by
byte, so its bytes are put together again once it is known which characters all of them come to.
-/

set_option autoImplicit false

namespace NaturalKey.Json

/-! ### Escapes -/

section Escapes

variable {bytes rest : List UInt8} {n : Nat} {c : Char}

theorem eq_of_takes_hexNumber (h : Takes (hexNumber bytes) n rest) :
    ∃ w x y z, bytes = w :: x :: y :: z :: rest ∧ hexNumber? w x y z = some n := by
  obtain ⟨shorter, h⟩ := h
  unfold hexNumber at h
  split at h
  · split at h
    · rename_i value
      cases h
      exact ⟨_, _, _, _, rfl, value⟩
    · cases h
  · cases h

theorem eq_of_takes_lowSurrogate (h : Takes (lowSurrogate bytes) n rest) :
    ∃ w x y z, bytes = 0x5C :: 0x75 :: w :: x :: y :: z :: rest ∧
      hexNumber? w x y z = some n ∧ isLowSurrogate n = true := by
  obtain ⟨shorter, h⟩ := h
  unfold lowSurrogate at h
  split at h
  · cases h
  split at h
  · cases h
  rename_i backslash
  split at h
  · cases h
  split at h
  · cases h
  rename_i letter
  split at h
  · cases h
  rename_i number read
  split at h
  · rename_i isLow
    cases h
    obtain ⟨w, x, y, z, same, value⟩ := eq_of_takes_hexNumber ⟨number.shorter, read⟩
    rw [Decidable.not_not.mp backslash, Decidable.not_not.mp letter]
    exact ⟨w, x, y, z, congrArg (0x5C :: 0x75 :: ·) same, value, isLow⟩
  · cases h

theorem eq_of_takes_unicodeEscape (h : Takes (unicodeEscape bytes) c rest) :
    ∃ spelled, SpellsEscape c (0x75 :: spelled) ∧ bytes = spelled ++ rest := by
  obtain ⟨shorter, h⟩ := h
  unfold unicodeEscape at h
  split at h
  · cases h
  rename_i number read
  obtain ⟨w, x, y, z, same, value⟩ := eq_of_takes_hexNumber ⟨number.shorter, read⟩
  split at h
  · cases h
  rename_i notLow
  split at h
  · rename_i isHigh
    split at h
    · cases h
    rename_i low second
    obtain ⟨w', x', y', z', more, value', isLow⟩ :=
      eq_of_takes_lowSurrogate ⟨low.shorter, second⟩
    simp only [Except.ok.injEq, Step.mk.injEq] at h
    obtain ⟨rfl, rfl⟩ := h
    refine ⟨[w, x, y, z, 0x5C, 0x75, w', x', y', z'], .pair value isHigh value' isLow, ?_⟩
    exact same.trans (congrArg ([w, x, y, z] ++ ·) more)
  · rename_i notHigh
    cases h
    rw [Bool.not_eq_true] at notHigh notLow
    exact ⟨[w, x, y, z], .number value notHigh notLow, same⟩

theorem eq_of_takes_escaped (h : Takes (escaped bytes) c rest) :
    ∃ spelled, SpellsEscape c spelled ∧ bytes = spelled ++ rest := by
  obtain ⟨shorter, h⟩ := h
  unfold escaped at h
  split at h
  · cases h
  split at h
  · rename_i found
    cases h
    exact ⟨_, .letter found, rfl⟩
  split at h
  · rename_i letter
    subst letter
    split at h
    · cases h
    rename_i step read
    cases h
    obtain ⟨spelled, escape, same⟩ := eq_of_takes_unicodeEscape ⟨step.shorter, read⟩
    exact ⟨_, escape, congrArg (0x75 :: ·) same⟩
  · cases h

end Escapes

/-! ### Strings -/

/-- What bytes between quotes come to before they are decoded: a byte stands for itself, an escape
for the bytes of its character. -/
inductive Unescapes : List UInt8 → List UInt8 → Prop
  | nil : Unescapes [] []
  | plain {b : UInt8} {letters written : List UInt8} : b ≠ 0x22 → b ≠ 0x5C → 0x20 ≤ b.toNat →
      Unescapes letters written → Unescapes (b :: letters) (b :: written)
  | escape {c : Char} {spelled letters written : List UInt8} : SpellsEscape c spelled →
      Unescapes letters written →
      Unescapes (0x5C :: (spelled ++ letters)) (Utf8.encodeChar c ++ written)

theorem eq_of_takes_stringBytes {bound : Nat} {taken bytes value rest : List UInt8}
    {le : bytes.length ≤ bound} (h : Takes (stringBytes taken bytes le) value rest) :
    ∃ letters written, Unescapes letters written ∧ bytes = letters ++ 0x22 :: rest ∧
      value = taken.reverse ++ written := by
  obtain ⟨shorter, h⟩ := h
  fun_induction stringBytes taken bytes le with
  | case1 => cases h
  | case2 =>
    cases h
    exact ⟨[], [], .nil, rfl, (List.append_nil _).symm⟩
  | case3 => cases h
  | case4 _ _ _ _ shorter' read _ _ _ ih =>
    obtain ⟨spelled, escape, rfl⟩ := eq_of_takes_escaped ⟨shorter', read⟩
    obtain ⟨letters, written, unescapes, rfl, same⟩ := ih h
    refine ⟨_, _, .escape escape unescapes, by simp, ?_⟩
    simpa using same
  | case5 => cases h
  | case6 _ b _ _ notQuote notBackslash notControl _ ih =>
    obtain ⟨letters, written, unescapes, rfl, same⟩ := ih h
    refine ⟨b :: letters, b :: written,
      .plain notQuote notBackslash (Nat.not_lt.mp notControl) unescapes, rfl, ?_⟩
    simpa using same

/-- No escape comes to bytes that go on a character, so these are there as they are. -/
theorem Unescapes.of_continuation {more letters written : List UInt8}
    (h : Unescapes letters (more ++ written))
    (goesOn : ∀ b ∈ more, (Utf8.continuation? b).isSome = true) :
    ∃ others, letters = more ++ others ∧ Unescapes others written := by
  induction more generalizing letters with
  | nil => exact ⟨letters, rfl, h⟩
  | cons b more ih =>
    rw [List.cons_append] at h
    generalize same : b :: (more ++ written) = all at h
    cases h with
    | nil => cases same
    | plain _ _ _ rest =>
      obtain ⟨rfl, rfl⟩ := List.cons.inj same
      obtain ⟨others, rfl, left⟩ := ih rest fun c among => goesOn c (List.mem_cons_of_mem _ among)
      exact ⟨others, rfl, left⟩
    | @escape c _ _ _ _ _ =>
      obtain ⟨lead, others, bytes, begins, -⟩ := Utf8.encodeChar_eq_cons c
      rw [bytes, List.cons_append, List.cons.injEq] at same
      have inside := goesOn b List.mem_cons_self
      rw [same.1, begins] at inside
      cases inside

theorem Unescapes.spellsText {letters : List UInt8} {chars : List Char}
    (h : Unescapes letters (chars.flatMap Utf8.encodeChar)) : SpellsText chars letters := by
  induction chars generalizing letters with
  | nil =>
    generalize same : [].flatMap Utf8.encodeChar = all at h
    cases h with
    | nil => exact .nil
    | plain _ _ _ _ => cases same
    | escape _ _ => exact absurd (List.append_eq_nil_iff.mp same.symm).1 (Utf8.encodeChar_ne_nil _)
  | cons c chars ih =>
    generalize same : (c :: chars).flatMap Utf8.encodeChar = all at h
    cases h with
    | nil => exact absurd (List.append_eq_nil_iff.mp same).1 (Utf8.encodeChar_ne_nil c)
    | escape spelled rest =>
      obtain ⟨others, equal, rfl⟩ := Utf8.exists_cons_of_flatMap_encodeChar_eq same
      obtain ⟨rfl, rfl⟩ := List.cons.inj equal
      rw [← List.cons_append]
      exact .cons (.escape spelled) (ih rest)
    | plain notQuote notBackslash notControl rest =>
      obtain ⟨b, more, bytes, -, goesOn⟩ := Utf8.encodeChar_eq_cons c
      rw [List.flatMap_cons, bytes, List.cons_append, List.cons.injEq] at same
      obtain ⟨rfl, rfl⟩ := same
      obtain ⟨others, rfl, left⟩ := rest.of_continuation goesOn
      have ordinary (d : Char) (small : d.toNat < 0x80) (differs : b ≠ .ofNat d.toNat) : c ≠ d := by
        rintro rfl
        rw [Utf8.encodeChar, if_pos small] at bytes
        exact differs (List.cons.inj bytes).1.symm
      have plain : SpellsChar c (Utf8.encodeChar c) := by
        refine .plain ?_ (ordinary '\x22' (by decide) notQuote)
          (ordinary '\\' (by decide) notBackslash)
        rcases Utf8.encodeChar_cases c with ⟨small, single⟩ | ⟨large, -⟩
        · have value : b.toNat = c.toNat := by
            rw [bytes] at single
            rw [(List.cons.inj single).1, UInt8.toNat_ofNat', Nat.mod_eq_of_lt (by omega)]
          omega
        · omega
      rw [bytes] at plain
      exact .cons plain (ih left)

/-- What was taken up to a closing quote spells the text. -/
theorem eq_of_takes_stringRest {bytes rest : List UInt8} {text : String}
    (h : Takes (stringRest bytes) text rest) :
    ∃ letters, SpellsName text letters ∧ bytes = letters ++ 0x22 :: rest := by
  obtain ⟨shorter, h⟩ := h
  unfold stringRest at h
  split at h
  · cases h
  rename_i step read
  obtain ⟨letters, written, unescapes, same, value⟩ :=
    eq_of_takes_stringBytes ⟨step.shorter, read⟩
  split at h
  · rename_i chars decoded
    cases h
    obtain ⟨more, rfl, all⟩ := Utf8.decodeFrom_eq decoded
    rw [value, List.append_nil, List.reverse_nil, List.nil_append] at all
    subst all
    refine ⟨letters, ?_, same⟩
    rw [SpellsName, String.toList_ofList]
    exact unescapes.spellsText
  · cases h

/-- A name is read from what spells it alone. -/
theorem spellsName_of_takes {letters rest : List UInt8} {name : String}
    (h : Takes (stringRest (letters ++ 0x22 :: rest)) name rest) : SpellsName name letters := by
  obtain ⟨others, spelled, same⟩ := eq_of_takes_stringRest h
  rwa [List.append_cancel_right same]

/-! ### Objects -/

section Objects

variable {bytes rest : List UInt8}

theorem exists_space (bytes : List UInt8) :
    ∃ space, Space space ∧ bytes = space ++ skipSpace bytes := by
  refine ⟨bytes.takeWhile isSpace, ?_, List.takeWhile_append_dropWhile.symm⟩
  intro b member
  exact List.mem_takeWhile_imp member

theorem afterSpace_eq {le : rest.length ≤ bytes.length}
    (h : afterSpace bytes = ⟨rest, le⟩) : ∃ space, Space space ∧ bytes = space ++ rest := by
  obtain ⟨space, blank, same⟩ := exists_space bytes
  have found : skipSpace bytes = rest := congrArg Subtype.val h
  exact ⟨space, blank, found ▸ same⟩

theorem nextName_eq_closed {first : Bool} {shorter : rest.length < bytes.length}
    (h : nextName first bytes = .ok (.closed rest shorter)) :
    ∃ space, Space space ∧ bytes = space ++ 0x7D :: rest := by
  unfold nextName at h
  split at h
  · cases h
  rename_i b others le found
  obtain ⟨space, blank, same⟩ := afterSpace_eq found
  split at h
  · rename_i brace
    cases h
    exact ⟨space, blank, brace ▸ same⟩
  · repeat' split at h
    all_goals cases h

theorem nextName_eq_more {first : Bool} {le : rest.length ≤ bytes.length}
    (h : nextName first bytes = .ok (.more () rest le)) :
    ∃ lead, Lead first lead ∧ bytes = lead ++ 0x22 :: rest := by
  unfold nextName at h
  split at h
  · cases h
  rename_i b others le found
  obtain ⟨space, blank, same⟩ := afterSpace_eq found
  split at h
  · cases h
  split at h
  · rename_i isFirst
    split at h
    · rename_i quote
      cases h
      rw [isFirst]
      exact ⟨space, .first blank, quote ▸ same⟩
    · cases h
  rename_i notFirst
  split at h
  · rename_i comma
    split at h
    · cases h
    rename_i c more le' found'
    obtain ⟨space', blank', same'⟩ := afterSpace_eq found'
    split at h
    · rename_i quote
      cases h
      rw [Bool.not_eq_true] at notFirst
      refine ⟨space ++ 0x2C :: space', notFirst ▸ .comma blank blank', ?_⟩
      rw [same, comma, same', quote, List.append_assoc, List.cons_append]
    · split at h <;> cases h
  · cases h

theorem eq_of_takes_afterColon {α : Type} {reader : Reader α} {value : α}
    (h : Takes (afterColon reader bytes) value rest) :
    ∃ before text, Space before ∧ bytes = before ++ 0x3A :: text ∧
      Takes (reader text) value rest := by
  obtain ⟨shorter, h⟩ := h
  unfold afterColon colon at h
  split at h
  · cases h
  rename_i taken
  split at taken
  · cases taken
  rename_i found
  obtain ⟨space, blank, same⟩ := afterSpace_eq found
  split at taken
  · rename_i isColon
    cases taken
    split at h
    · cases h
    rename_i step read
    cases h
    exact ⟨space, _, blank, isColon ▸ same, step.shorter, read⟩
  · cases taken

theorem eq_of_takes_readString {text : String} (h : Takes (readString bytes) text rest) :
    ∃ before spelled, Space before ∧ Spells (.string text) spelled ∧
      bytes = before ++ (spelled ++ rest) := by
  obtain ⟨shorter, h⟩ := h
  unfold readString at h
  split at h
  · cases h
  rename_i found
  obtain ⟨space, blank, same⟩ := afterSpace_eq found
  split at h
  · rename_i quote
    split at h
    · cases h
    rename_i step read
    cases h
    obtain ⟨letters, spelled, more⟩ := eq_of_takes_stringRest ⟨step.shorter, read⟩
    refine ⟨space, _, blank, .string spelled, ?_⟩
    rw [same, quote]
    simpa using more
  · exact absurd h (mismatch_ne_ok _ _ _ _)

/-- The members that were taken up to a closing brace, if each of them was a name with what spells
its value and has been put to those before it. -/
theorem eq_of_takes_readMembers {ι σ : Type} {member : String → σ → Reader σ}
    {Spelled : ι → List UInt8 → Prop} {f : σ → String × ι → σ}
    (each : ∀ {name state bytes next rest}, Takes (member name state bytes) next rest →
      ∃ value before after text, Space before ∧ Space after ∧ Spelled value text ∧
        bytes = before ++ 0x3A :: (after ++ (text ++ rest)) ∧ next = f state (name, value))
    {bound : Nat} {first : Bool} {state last : σ} {le : bytes.length ≤ bound}
    (h : Takes (readMembers member first state bytes le) last rest) :
    ∃ members text, MembersOf SpellsName Spelled first members text ∧ bytes = text ++ rest ∧
      last = members.foldl f state := by
  obtain ⟨shorter, h⟩ := h
  fun_induction readMembers member first state bytes le with
  | case1 => cases h
  | case2 _ _ _ _ _ _ closed =>
    cases h
    obtain ⟨space, blank, rfl⟩ := nextName_eq_closed closed
    exact ⟨[], _, .close blank, by simp, rfl⟩
  | case3 => cases h
  | case4 => cases h
  | case5 first state bytes le _ rest _ more name named state' rest' _ read _ ih =>
    obtain ⟨members, text, written, same, value⟩ := ih h
    obtain ⟨lead, leads, begins⟩ := nextName_eq_more more
    obtain ⟨letters, spelledName, quoted⟩ := eq_of_takes_stringRest ⟨name.shorter, named⟩
    obtain ⟨item, before, after, bytes, blank, blank', spelled, found, next⟩ := each ⟨_, read⟩
    subst next
    refine ⟨(name.value, item) :: members, _,
      .more leads spelledName blank blank' spelled written, ?_, value⟩
    rw [begins, quoted, found, same]
    simp

end Objects

end NaturalKey.Json
