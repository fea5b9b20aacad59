import NaturalKey.Json.Numeral
import NaturalKey.Json.StringLiteral

/-!
Reading JSON values: any value, or one of a kind. Of members with the same name the last counts.
Arrays and objects may be nested as deeply as a budget says; scalars need none of it.
-/

set_option autoImplicit false

namespace NaturalKey.Json

/-! ### Brackets

Reading what stands inside them, given a reader for one item or one member. The bracket that opens
has been taken; the one that closes is taken here.
-/

def readItems {α : Type} (item : Reader α) {bound : Nat} (first : Bool) (taken : List α)
    (bytes : List UInt8) (le : bytes.length ≤ bound) : Except Stop (Step bound (List α)) :=
  match nextItem first bytes with
  | .error stop => .error stop
  | .ok (.closed rest shorter) => .ok ⟨taken.reverse, rest, Nat.lt_of_lt_of_le shorter le⟩
  | .ok (.more _ rest le') =>
    match item rest with
    | .error stop => .error stop
    | .ok ⟨value, rest', shorter⟩ =>
      readItems item false (value :: taken) rest' (by omega)
termination_by bytes.length
decreasing_by omega

/-- Reads members up to the closing brace. `member` reads what follows a name and adds it to what
the members before have come to. -/
def readMembers {σ : Type} (member : String → σ → Reader σ) {bound : Nat} (first : Bool) (state : σ)
    (bytes : List UInt8) (le : bytes.length ≤ bound) : Except Stop (Step bound σ) :=
  match nextName first bytes with
  | .error stop => .error stop
  | .ok (.closed rest shorter) => .ok ⟨state, rest, Nat.lt_of_lt_of_le shorter le⟩
  | .ok (.more _ rest le') =>
    match stringRest rest with
    | .error stop => .error stop
    | .ok name =>
      match member name.value state name.rest with
      | .error stop => .error stop
      | .ok ⟨state', rest', shorter⟩ =>
        have := name.shorter
        readMembers member false state' rest' (by omega)
termination_by bytes.length
decreasing_by omega

def afterColon {α : Type} (reader : Reader α) : Reader α := fun bytes =>
  match colon bytes with
  | .error stop => .error stop
  | .ok ⟨_, rest, shorter⟩ =>
    match reader rest with
    | .error stop => .error stop
    | .ok step => .ok (step.weaken (Nat.le_of_lt shorter))

/-! ### Any value -/

/-- How deeply a document may nest arrays and objects. -/
def depthLimit : Nat := 127

/-- Reads a scalar from its first byte; `none` if no scalar starts with it. -/
def readScalar (b : UInt8) (rest : List UInt8) :
    Option (Except Stop (Step (rest.length + 1) Scalar)) :=
  let word (letters : List UInt8) (value : Scalar) :
      Except Stop (Step (rest.length + 1) Scalar) :=
    match literal letters rest with
    | .error stop => .error stop
    | .ok ⟨rest', le⟩ => .ok ⟨value, rest', Nat.lt_succ_of_le le⟩
  if b = 0x6E then
    some (word [0x75, 0x6C, 0x6C] .null)
  else if b = 0x74 then
    some (word [0x72, 0x75, 0x65] (.bool true))
  else if b = 0x66 then
    some (word [0x61, 0x6C, 0x73, 0x65] (.bool false))
  else if b = 0x2D then
    some ((numeral true rest).map fun step => (step.map .number).weaken (length_le_succ rest))
  else if isDigit b then
    some ((numeral false (b :: rest)).map (Step.map .number))
  else if b = 0x22 then
    some ((stringRest rest).map fun step => (step.map .string).weaken (length_le_succ rest))
  else
    none

def putMember (reader : Reader Value) (name : String) (object : Object) : Reader Object :=
  fun bytes => (afterColon reader bytes).map (Step.map (object.put name))

def readValue (budget : Nat) : Reader Value := fun bytes =>
  match afterSpace bytes with
  | ⟨[], _⟩ => blame .endInValue []
  | ⟨b :: rest, le⟩ =>
    match readScalar b rest with
    | some (.error stop) => .error stop
    | some (.ok step) => .ok ((step.map Scalar.toValue).weaken le)
    | none =>
      if b = 0x5B then
        match budget with
        | 0 => blame .tooDeep (b :: rest)
        | budget + 1 =>
          match readItems (readValue budget) true [] rest (length_le rest) with
          | .error stop => .error stop
          | .ok step => .ok ((step.map Value.array).weaken (length_le_of_cons_le le))
      else if b = 0x7B then
        match budget with
        | 0 => blame .tooDeep (b :: rest)
        | budget + 1 =>
          match readMembers (putMember (readValue budget)) true .empty rest (length_le rest) with
          | .error stop => .error stop
          | .ok step => .ok ((step.map Object.toValue).weaken (length_le_of_cons_le le))
      else
        blame .notAValue (b :: rest)
termination_by structural budget

def parse (text : List UInt8) : Except Error Value :=
  Reader.readAll (readValue depthLimit) .whole text

/-! ### Values of one kind

A string, an object, or an object of strings. Anything else is a mismatch, which names what was
found if that is well formed so far.
-/

/-- Fails at a value of another kind, given its first byte. A scalar is read to its end, of an
array or object nothing is taken. -/
def mismatch {α : Type} (wanted : Wanted) (b : UInt8) (rest : List UInt8) : Except Stop α :=
  match readScalar b rest with
  | some (.error stop) => .error stop
  | some (.ok ⟨.number n, rest', _⟩) =>
    failAtPeek (.wrongKind (.scalar (.number n)) wanted) rest'
  | some (.ok ⟨found, rest', _⟩) => fail (.wrongKind (.scalar found) wanted) rest'
  | none =>
    if b = 0x5B then failAtPeek (.wrongKind .array wanted) (b :: rest)
    else if b = 0x7B then failAtPeek (.wrongKind .object wanted) (b :: rest)
    else blame .notAValue (b :: rest)

theorem mismatch_ne_ok {α : Type} (wanted : Wanted) (b : UInt8) (rest : List UInt8) (value : α) :
    mismatch wanted b rest ≠ .ok value := by
  unfold mismatch
  repeat' split
  all_goals nofun

def readString : Reader String := fun bytes =>
  match afterSpace bytes with
  | ⟨[], _⟩ => blame .endInValue []
  | ⟨b :: rest, le⟩ =>
    if b = 0x22 then
      match stringRest rest with
      | .error stop => .error stop
      | .ok step => .ok (step.weaken (length_le_of_cons_le le))
    else
      mismatch .string b rest

/-- Reads an object into what its members come to, given what one member adds. -/
def readObjectOf {σ : Type} (member : String → σ → Reader σ) (start : σ) : Reader σ := fun bytes =>
  match afterSpace bytes with
  | ⟨[], _⟩ => blame .endInValue []
  | ⟨b :: rest, le⟩ =>
    if b = 0x7B then
      match readMembers member true start rest (length_le rest) with
      | .error stop => .error stop
      | .ok step => .ok (step.weaken (length_le_of_cons_le le))
    else
      mismatch .object b rest

def readObject (budget : Nat) : Reader Object :=
  readObjectOf (putMember (readValue budget)) .empty

/-- Reads an object all of whose members are strings; the last of the same name counts. -/
def readStringMap : Reader (SortedMap String String) :=
  let member (name : String) (map : SortedMap String String) : Reader (SortedMap String String) :=
    fun bytes => (afterColon readString bytes).map (Step.map (map.put name))
  readObjectOf member .empty

end NaturalKey.Json
