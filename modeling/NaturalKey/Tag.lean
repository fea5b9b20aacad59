import NaturalKey.Text

/-!
Tags: the texts that say which table a record belongs to and which record of it is meant. Any text
will do that is not blank, and it is kept as it is, white space at its ends included.
-/

set_option autoImplicit false

namespace NaturalKey

inductive Tag.Kind where
  | recordType
  | id
  | tenant
deriving DecidableEq, Repr

/-- A text that is not blank. -/
structure Tag (kind : Tag.Kind) where
  text : String
  nonBlank : Text.isBlank text = false
deriving DecidableEq, Repr

/-- The kind of a record, such as `User`. -/
abbrev RecordType : Type := Tag .recordType

/-- The value of the natural key of a record. -/
abbrev RecordId : Type := Tag .id

/-- To whom a record belongs. Every question is about the records of one tenant. -/
abbrev Tenant : Type := Tag .tenant

namespace Tag

variable {kind : Kind}

def ofText? (text : String) : Option (Tag kind) :=
  if nonBlank : Text.isBlank text = false then some ⟨text, nonBlank⟩ else none

@[simp]
theorem ofText?_text (tag : Tag kind) : ofText? tag.text = some tag := by
  simp [ofText?, tag.nonBlank]

theorem text_of_ofText? {text : String} {tag : Tag kind} (h : ofText? text = some tag) :
    tag.text = text := by
  simp only [ofText?] at h
  split at h
  · cases h
    rfl
  · cases h

theorem ofText?_eq_none_iff {text : String} :
    (ofText? text : Option (Tag kind)) = none ↔ Text.isBlank text = true := by
  simp [ofText?]

theorem ext_text {a b : Tag kind} (h : a.text = b.text) : a = b := by
  cases a
  cases b
  simp_all

/-- Puts a tag at its place among tags in ascending order, unless it is there. -/
def putAscending (tag : Tag kind) : List (Tag kind) → List (Tag kind)
  | [] => [tag]
  | first :: rest =>
    match compare tag.text first.text with
    | .lt => tag :: first :: rest
    | .eq => first :: rest
    | .gt => first :: putAscending tag rest

/-- The tags in ascending order of their texts, which is that of their UTF-8 bytes, each once. -/
def ascending (tags : List (Tag kind)) : List (Tag kind) :=
  tags.foldr putAscending []

end Tag

/-- The tenant of records for which none is named. -/
def Tenant.default : Tenant :=
  ⟨"default", by decide⟩

end NaturalKey
