import NaturalKey.Fault
import NaturalKey.Proofs.Text.Blank

/-!
Which texts are tags: those that are not blank, so those without the white space at their ends that
are not empty.
-/

set_option autoImplicit false

namespace NaturalKey.Tag

variable {kind : Kind}

@[simp]
theorem ofText_text (tag : Tag kind) : ofText tag.text = .ok tag := by
  rw [ofText, ofText?_text]

theorem ofText_of_not_isBlank {text : String} (h : Text.isBlank text = false) :
    ofText text = .ok (⟨text, h⟩ : Tag kind) :=
  ofText_text ⟨text, h⟩

theorem ofText_of_isBlank {text : String} (h : Text.isBlank text = true) :
    (ofText text : Except Fault (Tag kind)) = .error (.ofBlank kind text) := by
  rw [ofText, ofText?_eq_none_iff.mpr h]

theorem ofText_eq_ok_iff {text : String} {tag : Tag kind} :
    ofText text = .ok tag ↔ tag.text = text := by
  constructor
  · intro made
    unfold ofText at made
    split at made
    · rename_i found
      cases made
      exact text_of_ofText? found
    · cases made
  · rintro rfl
    exact ofText_text tag

theorem exists_text_eq_trim {text : String} (h : Text.trim text ≠ "") :
    ∃ tag : Tag kind, tag.text = Text.trim text := by
  have nonBlank : Text.isBlank (Text.trim text) = false := by
    rw [← Bool.not_eq_true]
    exact mt Text.isBlank_trim_iff.mp h
  exact ⟨⟨_, nonBlank⟩, rfl⟩

theorem trim_ne_empty (tag : Tag kind) {text : String} (h : tag.text = Text.trim text) :
    Text.trim text ≠ "" := by
  intro empty
  have blank := Text.isBlank_trim_iff.mpr empty
  rw [← h, tag.nonBlank] at blank
  cases blank

end NaturalKey.Tag
