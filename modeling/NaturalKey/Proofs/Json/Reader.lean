import Mathlib.Data.List.TakeWhile
import NaturalKey.Json.Document

/-!
What readers come to. A reader takes a value off the front of some bytes and leaves the rest; or it
fails, and then only the cause is of interest here. White space before a piece never matters.
-/

set_option autoImplicit false

namespace NaturalKey.Json

/-- The outcome is this value, with these bytes left. -/
def Takes {bound : Nat} {α : Type} (outcome : Except Stop (Step bound α)) (value : α)
    (rest : List UInt8) : Prop :=
  ∃ shorter, outcome = .ok ⟨value, rest, shorter⟩

/-- The outcome is the expected value, with these bytes left, or a failure of the expected cause. -/
def Agrees {bound : Nat} {α : Type} (outcome : Except Stop (Step bound α))
    (expected : Except Cause α) (rest : List UInt8) : Prop :=
  match expected with
  | .ok value => Takes outcome value rest
  | .error cause => ∃ stop, outcome = .error stop ∧ stop.cause = cause

section Outcome

variable {m n : Nat} {α β : Type} {rest : List UInt8}

theorem Takes.agrees {outcome : Except Stop (Step m α)} {value : α} (h : Takes outcome value rest) :
    Agrees outcome (.ok value) rest := h

theorem Agrees.takes {outcome : Except Stop (Step m α)} {value : α}
    (h : Agrees outcome (.ok value) rest) : Takes outcome value rest := h

theorem Takes.map {outcome : Except Stop (Step m α)} {value : α} (h : Takes outcome value rest)
    (f : α → β) : Takes (outcome.map (Step.map f)) (f value) rest := by
  obtain ⟨shorter, rfl⟩ := h
  exact ⟨shorter, rfl⟩

theorem Takes.exists_of_map {outcome : Except Stop (Step m α)} {f : α → β} {value : β}
    (h : Takes (outcome.map (Step.map f)) value rest) :
    ∃ source, Takes outcome source rest ∧ value = f source := by
  obtain ⟨shorter, h⟩ := h
  cases outcome with
  | error stop => cases h
  | ok step =>
    cases h
    exact ⟨step.value, ⟨step.shorter, rfl⟩, rfl⟩

theorem Takes.weaken {outcome : Except Stop (Step m α)} {value : α} (h : Takes outcome value rest)
    (le : m ≤ n) : Takes (outcome.map (Step.weaken le)) value rest := by
  obtain ⟨shorter, rfl⟩ := h
  exact ⟨Nat.lt_of_lt_of_le shorter le, rfl⟩

theorem Agrees.map {outcome : Except Stop (Step m α)} {expected : Except Cause α}
    (h : Agrees outcome expected rest) (f : α → β) :
    Agrees (outcome.map (Step.map f)) (expected.map f) rest := by
  cases expected with
  | ok value => exact Takes.map h f
  | error cause =>
    obtain ⟨stop, rfl, same⟩ := h
    exact ⟨stop, rfl, same⟩

theorem Agrees.weaken {outcome : Except Stop (Step m α)} {expected : Except Cause α}
    (h : Agrees outcome expected rest) (le : m ≤ n) :
    Agrees (outcome.map (Step.weaken le)) expected rest := by
  cases expected with
  | ok value => exact Takes.weaken h le
  | error cause =>
    obtain ⟨stop, rfl, same⟩ := h
    exact ⟨stop, rfl, same⟩

theorem Agrees.of_takes {outcome : Except Stop (Step m α)} {expected : Except Cause α}
    (h : Agrees outcome expected rest) {value : α} {left : List UInt8}
    (taken : Takes outcome value left) : expected = .ok value ∧ left = rest := by
  obtain ⟨shorter, rfl⟩ := taken
  cases expected with
  | ok other =>
    obtain ⟨_, ⟨⟩⟩ := h
    exact ⟨rfl, rfl⟩
  | error cause =>
    obtain ⟨_, ⟨⟩, -⟩ := h

theorem Agrees.of_error {stop : Stop} {expected : Except Cause α}
    (h : Agrees (.error stop : Except Stop (Step m α)) expected rest) :
    Agrees (.error stop : Except Stop (Step n α)) expected rest := by
  cases expected with
  | ok value =>
    obtain ⟨_, taken⟩ := h
    cases taken
  | error cause =>
    obtain ⟨_, ⟨⟩, same⟩ := h
    exact ⟨stop, rfl, same⟩

end Outcome

/-- White space, as it may stand between the tokens of a text. -/
def Space (bytes : List UInt8) : Prop :=
  ∀ b ∈ bytes, isSpace b = true

theorem space_nil : Space [] := by
  simp [Space]

theorem skipSpace_append {space : List UInt8} (h : Space space) (bytes : List UInt8) :
    skipSpace (space ++ bytes) = skipSpace bytes := by
  induction space with
  | nil => rfl
  | cons b space ih =>
    have first : isSpace b = true := h b (by simp)
    have others : Space space := fun c member => h c (by simp [member])
    rw [List.cons_append, skipSpace, List.dropWhile_cons, if_pos first]
    exact ih others

theorem skipSpace_cons {b : UInt8} (h : isSpace b = false) (rest : List UInt8) :
    skipSpace (b :: rest) = b :: rest := by
  simp [skipSpace, h]

/-- Past white space the next token is found, and nothing else is lost. -/
theorem afterSpace_append {space : List UInt8} (h : Space space) {b : UInt8}
    (token : isSpace b = false) (rest : List UInt8) :
    ∃ le, afterSpace (space ++ b :: rest) = ⟨b :: rest, le⟩ := by
  have found : skipSpace (space ++ b :: rest) = b :: rest := by
    rw [skipSpace_append h, skipSpace_cons token]
  exact ⟨by simp, Subtype.ext found⟩

theorem Reader.readAll_of_takes {α : Type} {reader : Reader α} {text after : List UInt8} {value : α}
    (taken : Takes (reader text) value after) (blank : Space after) (supply : Supply) :
    reader.readAll supply text = .ok value := by
  obtain ⟨shorter, read⟩ := taken
  have finished : skipSpace after = [] := by
    rw [← List.append_nil after, skipSpace_append blank]
    rfl
  simp only [readAll, read, Step.finish, finished]

theorem Reader.exists_takes_of_readAll {α : Type} {reader : Reader α} {supply : Supply}
    {text : List UInt8} {value : α} (h : reader.readAll supply text = .ok value) :
    ∃ after, Space after ∧ Takes (reader text) value after := by
  rw [readAll] at h
  split at h
  · cases h
  · rename_i step read
    rw [Step.finish] at h
    split at h
    · rename_i finished
      cases h
      exact ⟨step.rest, List.dropWhile_eq_nil_iff.mp finished, step.shorter, read⟩
    · cases h

theorem takes_colon {space : List UInt8} (h : Space space) (rest : List UInt8) :
    Takes (colon (space ++ 0x3A :: rest)) () rest := by
  obtain ⟨le, found⟩ := afterSpace_append h (b := 0x3A) (by decide) rest
  exact ⟨le, by simp only [colon, found, if_true]⟩

theorem agrees_afterColon {α : Type} {reader : Reader α} {space text rest : List UInt8}
    (h : Space space) {expected : Except Cause α} (agrees : Agrees (reader text) expected rest) :
    Agrees (afterColon reader (space ++ 0x3A :: text)) expected rest := by
  obtain ⟨shorter, colonTaken⟩ := takes_colon h text
  simp only [afterColon, colonTaken]
  cases expected with
  | ok value =>
    obtain ⟨shorter', taken⟩ := agrees
    simp only [taken]
    exact ⟨Nat.lt_trans shorter' shorter, rfl⟩
  | error cause =>
    obtain ⟨stop, failed, same⟩ := agrees
    simp only [failed]
    exact ⟨stop, rfl, same⟩

/-! ### Between items and members -/

/-- What stands before an item or member: white space, around a comma unless it is the first. -/
inductive Lead : Bool → List UInt8 → Prop
  | first {space : List UInt8} : Space space → Lead true space
  | comma {before after : List UInt8} : Space before → Space after →
      Lead false (before ++ 0x2C :: after)

theorem nextItem_close {space : List UInt8} (h : Space space) (first : Bool) (rest : List UInt8) :
    ∃ shorter, nextItem first (space ++ 0x5D :: rest) = .ok (.closed rest shorter) := by
  obtain ⟨le, found⟩ := afterSpace_append h (b := 0x5D) (by decide) rest
  exact ⟨le, by simp only [nextItem, found, if_true]⟩

theorem nextItem_more {first : Bool} {lead : List UInt8} (h : Lead first lead) {b : UInt8}
    (token : isSpace b = false) (notEnd : b ≠ 0x5D) (rest : List UInt8) :
    ∃ le, nextItem first (lead ++ b :: rest) = .ok (.more () (b :: rest) le) := by
  cases h with
  | first space =>
    obtain ⟨le, found⟩ := afterSpace_append space token rest
    exact ⟨le, by simp only [nextItem, found, if_neg notEnd, if_true]⟩
  | @comma before after spaceBefore spaceAfter =>
    obtain ⟨le, comma⟩ := afterSpace_append spaceBefore (b := 0x2C) (by decide)
      (after ++ b :: rest)
    obtain ⟨le', found⟩ := afterSpace_append spaceAfter token rest
    rw [List.append_assoc, List.cons_append]
    refine ⟨by simp; omega, ?_⟩
    simp only [nextItem, comma, found, if_neg notEnd]
    rfl

theorem nextName_close {space : List UInt8} (h : Space space) (first : Bool) (rest : List UInt8) :
    ∃ shorter, nextName first (space ++ 0x7D :: rest) = .ok (.closed rest shorter) := by
  obtain ⟨le, found⟩ := afterSpace_append h (b := 0x7D) (by decide) rest
  exact ⟨le, by simp only [nextName, found, if_true]⟩

theorem nextName_more {first : Bool} {lead : List UInt8} (h : Lead first lead)
    (rest : List UInt8) :
    ∃ le, nextName first (lead ++ 0x22 :: rest) = .ok (.more () rest le) := by
  cases h with
  | first space =>
    obtain ⟨le, found⟩ := afterSpace_append space (b := 0x22) (by decide) rest
    refine ⟨by simp; omega, ?_⟩
    simp only [nextName, found]
    rfl
  | @comma before after spaceBefore spaceAfter =>
    obtain ⟨le, comma⟩ := afterSpace_append spaceBefore (b := 0x2C) (by decide)
      (after ++ 0x22 :: rest)
    obtain ⟨le', found⟩ := afterSpace_append spaceAfter (b := 0x22) (by decide) rest
    rw [List.append_assoc, List.cons_append]
    refine ⟨by simp; omega, ?_⟩
    simp only [nextName, comma, found]
    rfl

end NaturalKey.Json
