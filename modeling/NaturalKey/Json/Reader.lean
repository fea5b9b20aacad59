import NaturalKey.Json.Fault

/-!
Reading JSON from bytes, one piece after another. A reader takes at least one byte and says what is
left, so readers in a row come to an end; the brackets and commas around items and members are read
here, the values in the modules that follow.
-/

set_option autoImplicit false

namespace NaturalKey.Json

/-- What was read, and fewer than `bound` bytes that are left. -/
structure Step (bound : Nat) (α : Type) where
  value : α
  rest : List UInt8
  shorter : rest.length < bound

abbrev Reader (α : Type) : Type :=
  (bytes : List UInt8) → Except Stop (Step bytes.length α)

section Length

variable (bytes : List UInt8)

theorem length_le : bytes.length ≤ bytes.length := Nat.le_refl _

theorem length_le_succ : bytes.length ≤ bytes.length + 1 := Nat.le_succ _

theorem length_lt_succ : bytes.length < bytes.length + 1 := Nat.lt_succ_self _

theorem length_le_of_cons_le {bytes : List UInt8} {b : UInt8} {rest : List UInt8}
    (le : (b :: rest).length ≤ bytes.length) : rest.length ≤ bytes.length :=
  Nat.le_of_lt le

end Length

namespace Step

variable {α β : Type} {m n : Nat}

def map (f : α → β) (step : Step m α) : Step m β :=
  ⟨f step.value, step.rest, step.shorter⟩

def weaken (le : m ≤ n) (step : Step m α) : Step n α :=
  ⟨step.value, step.rest, Nat.lt_of_lt_of_le step.shorter le⟩

end Step

def isSpace (b : UInt8) : Bool :=
  b == 0x20 || b == 0x0A || b == 0x09 || b == 0x0D

def skipSpace (bytes : List UInt8) : List UInt8 :=
  bytes.dropWhile isSpace

theorem length_skipSpace_le (bytes : List UInt8) : (skipSpace bytes).length ≤ bytes.length := by
  induction bytes with
  | nil => simp [skipSpace]
  | cons b rest ih =>
    simp only [skipSpace, List.dropWhile_cons, List.length_cons] at ih ⊢
    split
    · omega
    · simp

/-- The bytes from the first that is no white space. -/
def afterSpace (bytes : List UInt8) : { rest : List UInt8 // rest.length ≤ bytes.length } :=
  ⟨skipSpace bytes, length_skipSpace_le bytes⟩

/-- Fails before the next byte, which is to blame; at the end of the text there is none. -/
def blame {α : Type} (cause : Cause) (rest : List UInt8) : Except Stop α :=
  .error ⟨cause, rest, if rest.isEmpty then .unseen else .blamed⟩

def failAtPeek {α : Type} (cause : Cause) (rest : List UInt8) : Except Stop α :=
  .error ⟨cause, rest, if rest.isEmpty then .unseen else .seen⟩

def fail {α : Type} (cause : Cause) (rest : List UInt8) : Except Stop α :=
  .error ⟨cause, rest, .unseen⟩

inductive Next (bound : Nat) (α : Type) where
  | closed (rest : List UInt8) (shorter : rest.length < bound)
  | more (value : α) (rest : List UInt8) (le : rest.length ≤ bound)

def nextItem (first : Bool) (bytes : List UInt8) : Except Stop (Next bytes.length Unit) :=
  match afterSpace bytes with
  | ⟨[], _⟩ => blame .endInArray []
  | ⟨b :: rest, le⟩ =>
    if b = 0x5D then
      .ok (.closed rest le)
    else if first then
      .ok (.more () (b :: rest) le)
    else if b = 0x2C then
      match afterSpace rest with
      | ⟨[], _⟩ => blame .endInValue []
      | ⟨c :: rest', le'⟩ =>
        if c = 0x5D then
          blame .trailingComma (c :: rest')
        else
          .ok (.more () (c :: rest') (by simp only [List.length_cons] at le le' ⊢; omega))
    else
      blame .itemEndWanted (b :: rest)

def nextName (first : Bool) (bytes : List UInt8) : Except Stop (Next bytes.length Unit) :=
  match afterSpace bytes with
  | ⟨[], _⟩ => blame .endInObject []
  | ⟨b :: rest, le⟩ =>
    if b = 0x7D then
      .ok (.closed rest le)
    else if first then
      if b = 0x22 then
        .ok (.more () rest (length_le_of_cons_le le))
      else
        blame .nameNotString (b :: rest)
    else if b = 0x2C then
      match afterSpace rest with
      | ⟨[], _⟩ => blame .endInValue []
      | ⟨c :: rest', le'⟩ =>
        if c = 0x22 then
          .ok (.more () rest' (by simp only [List.length_cons] at le le'; omega))
        else if c = 0x7D then
          blame .trailingComma (c :: rest')
        else
          blame .nameNotString (c :: rest')
    else
      blame .memberEndWanted (b :: rest)

def colon : Reader Unit := fun bytes =>
  match afterSpace bytes with
  | ⟨[], _⟩ => blame .endInObject []
  | ⟨b :: rest, le⟩ => if b = 0x3A then .ok ⟨(), rest, le⟩ else blame .colonWanted (b :: rest)

def literal : List UInt8 → (bytes : List UInt8) →
    Except Stop { rest : List UInt8 // rest.length ≤ bytes.length }
  | [], bytes => .ok ⟨bytes, length_le bytes⟩
  | _ :: _, [] => fail .endInValue []
  | expected :: more, b :: rest =>
    if b = expected then
      match literal more rest with
      | .ok ⟨rest', le⟩ => .ok ⟨rest', Nat.le_succ_of_le le⟩
      | .error stop => .error stop
    else
      fail .unknownLiteral rest

/-- The value, if only white space follows it in the text. -/
def Step.finish {n : Nat} {α : Type} (step : Step n α) (supply : Supply) (text : List UInt8) :
    Except Error α :=
  match skipSpace step.rest with
  | [] => .ok step.value
  | b :: rest => .error (Stop.locate ⟨.trailingCharacters, b :: rest, .blamed⟩ supply text)

def Reader.readAll {α : Type} (reader : Reader α) (supply : Supply) (text : List UInt8) :
    Except Error α :=
  match reader text with
  | .error stop => .error (stop.locate supply text)
  | .ok step => step.finish supply text

end NaturalKey.Json
