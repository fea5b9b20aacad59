import NaturalKey.Json.Document
import NaturalKey.Json.Numeral

/-!
Passing over a value that nobody asked for. Only its outline is checked: any nesting, any number
and any bytes and surrogates inside strings will do.
-/

set_option autoImplicit false

namespace NaturalKey.Json

abbrev Left (bound : Nat) : Type :=
  { rest : List UInt8 // rest.length ≤ bound }

def skipExponentDigits (bytes : List UInt8) : Except Stop (Left bytes.length) :=
  match bytes with
  | [] => fail .invalidNumber []
  | b :: rest =>
    if isDigit b then
      .ok ⟨dropDigits rest, Nat.le_succ_of_le (length_dropDigits_le rest)⟩
    else
      fail .invalidNumber rest

def skipExponent (bytes : List UInt8) : Except Stop (Left bytes.length) :=
  match bytes with
  | [] => .ok ⟨[], Nat.le_refl _⟩
  | b :: rest =>
    if isExponentLetter b then
      match rest with
      | sign :: rest' =>
        if sign = 0x2B ∨ sign = 0x2D then
          (skipExponentDigits rest').map fun left =>
            ⟨left.1, Nat.le_succ_of_le (Nat.le_succ_of_le left.2)⟩
        else
          (skipExponentDigits (sign :: rest')).map fun left => ⟨left.1, Nat.le_succ_of_le left.2⟩
      | [] => fail .invalidNumber []
    else
      .ok ⟨b :: rest, Nat.le_refl _⟩

def skipFraction (bytes : List UInt8) : Except Stop (Left bytes.length) :=
  match bytes with
  | [] => .ok ⟨[], Nat.le_refl _⟩
  | b :: rest =>
    if b = 0x2E then
      if startsWithDigit rest then
        (skipExponent (dropDigits rest)).map fun left =>
          ⟨left.1, Nat.le_succ_of_le (Nat.le_trans left.2 (length_dropDigits_le rest))⟩
      else
        blame .invalidNumber rest
    else
      skipExponent (b :: rest)

def skipNumeral : Reader Unit
  | [] => fail .invalidNumber []
  | b :: rest =>
    if b = 0x30 then
      if startsWithDigit rest then
        blame .invalidNumber rest
      else
        (skipFraction rest).map fun left => ⟨(), left.1, Nat.lt_succ_of_le left.2⟩
    else if isDigit b then
      (skipFraction (dropDigits rest)).map fun left =>
        ⟨(), left.1, Nat.lt_succ_of_le (Nat.le_trans left.2 (length_dropDigits_le rest))⟩
    else
      fail .invalidNumber rest

def skipEscaped : Reader Unit
  | [] => fail .endInString []
  | letter :: rest =>
    if (simpleEscape? letter).isSome then
      .ok ⟨(), rest, length_lt_succ rest⟩
    else if letter = 0x75 then
      (hexNumber rest).map fun step => (step.map fun _ => ()).weaken (length_le_succ rest)
    else
      fail .invalidEscape rest

/-- Passes over a string from after the opening quote. A control character is not taken. -/
def skipString {bound : Nat} (bytes : List UInt8) (le : bytes.length ≤ bound) :
    Except Stop (Step bound Unit) :=
  match bytes with
  | [] => fail .endInString []
  | b :: rest =>
    if b = 0x22 then
      .ok ⟨(), rest, le⟩
    else if b = 0x5C then
      match skipEscaped rest with
      | .error stop => .error stop
      | .ok ⟨_, rest', shorter⟩ =>
        skipString rest' (by simp only [List.length_cons] at le; omega)
    else if b.toNat < 0x20 then
      failAtPeek .controlCharacter (b :: rest)
    else
      skipString rest (Nat.le_of_lt le)
termination_by bytes.length
decreasing_by all_goals simp only [List.length_cons]; omega

def skipScalar (b : UInt8) (rest : List UInt8) : Option (Except Stop (Left rest.length)) :=
  if b = 0x6E then
    some (literal [0x75, 0x6C, 0x6C] rest)
  else if b = 0x74 then
    some (literal [0x72, 0x75, 0x65] rest)
  else if b = 0x66 then
    some (literal [0x61, 0x6C, 0x73, 0x65] rest)
  else if b = 0x2D then
    some ((skipNumeral rest).map fun step => ⟨step.rest, Nat.le_of_lt step.shorter⟩)
  else if isDigit b then
    some ((skipNumeral (b :: rest)).map fun step => ⟨step.rest, Nat.le_of_lt_succ step.shorter⟩)
  else if b = 0x22 then
    some ((skipString rest (length_le rest)).map fun step =>
      ⟨step.rest, Nat.le_of_lt step.shorter⟩)
  else
    none

def skipName : Reader Unit := fun bytes =>
  match afterSpace bytes with
  | ⟨[], _⟩ => blame .endInObject []
  | ⟨b :: rest, le⟩ =>
    if b = 0x22 then
      match skipString rest (length_le rest) with
      | .error stop => .error stop
      | .ok name =>
        match colon name.rest with
        | .error stop => .error stop
        | .ok step => .ok (step.weaken (by
            have := name.shorter
            simp only [List.length_cons] at le
            omega))
    else
      blame .nameNotString (b :: rest)

mutual

def skipValue (bytes : List UInt8) : Except Stop (Step bytes.length Unit) :=
  match afterSpace bytes with
  | ⟨[], _⟩ => blame .endInValue []
  | ⟨b :: rest, le⟩ =>
    match skipScalar b rest with
    | some (.error stop) => .error stop
    | some (.ok ⟨rest', le'⟩) =>
      .ok ⟨(), rest', Nat.lt_of_lt_of_le (Nat.lt_succ_of_le le') le⟩
    | none =>
      if b = 0x5B then
        match skipItems true rest with
        | .error stop => .error stop
        | .ok step => .ok (step.weaken (length_le_of_cons_le le))
      else if b = 0x7B then
        match skipMembers true rest with
        | .error stop => .error stop
        | .ok step => .ok (step.weaken (length_le_of_cons_le le))
      else
        blame .notAValue (b :: rest)
termination_by 2 * bytes.length
decreasing_by all_goals simp only [List.length_cons] at le; omega

/-- Passes over the items up to the closing bracket. After a comma there must be a value. -/
def skipItems (first : Bool) (bytes : List UInt8) : Except Stop (Step bytes.length Unit) :=
  match afterSpace bytes with
  | ⟨[], _⟩ => blame .endInArray []
  | ⟨b :: rest, le⟩ =>
    if b = 0x5D then
      .ok ⟨(), rest, le⟩
    else if first then
      match skipValue (b :: rest) with
      | .error stop => .error stop
      | .ok ⟨_, rest', shorter⟩ =>
        match skipItems false rest' with
        | .error stop => .error stop
        | .ok step => .ok (step.weaken (by omega))
    else if b = 0x2C then
      match skipValue rest with
      | .error stop => .error stop
      | .ok ⟨_, rest', shorter⟩ =>
        match skipItems false rest' with
        | .error stop => .error stop
        | .ok step => .ok (step.weaken (by simp only [List.length_cons] at le; omega))
    else
      blame .itemEndWanted (b :: rest)
termination_by 2 * bytes.length + 1
decreasing_by all_goals simp only [List.length_cons] at *; omega

def skipMembers (first : Bool) (bytes : List UInt8) : Except Stop (Step bytes.length Unit) :=
  match afterSpace bytes with
  | ⟨[], _⟩ => blame .endInObject []
  | ⟨b :: rest, le⟩ =>
    if b = 0x7D then
      .ok ⟨(), rest, le⟩
    else if first = true ∨ b = 0x2C then
      match skipName (if first then b :: rest else rest) with
      | .error stop => .error stop
      | .ok name =>
        match skipValue name.rest with
        | .error stop => .error stop
        | .ok ⟨_, rest', shorter⟩ =>
          have := name.shorter
          match skipMembers false rest' with
          | .error stop => .error stop
          | .ok step => .ok (step.weaken (by
              split at this <;> simp only [List.length_cons] at * <;> omega))
    else
      blame .memberEndWanted (b :: rest)
termination_by 2 * bytes.length + 1
decreasing_by
  all_goals
    have shorter := name.shorter
    split at shorter <;> simp only [List.length_cons] at * <;> omega

end

end NaturalKey.Json
