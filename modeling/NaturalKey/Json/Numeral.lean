import NaturalKey.Json.Reader

/-!
Reading JSON numbers. Digits are collected as long as 64 bits hold them: those of the whole part
that do not fit only count as powers of ten, those of the fraction are dropped. A number without
fraction and exponent is an integer if 64 bits hold it; every other number is a double.
-/

set_option autoImplicit false

namespace NaturalKey.Json

def isDigit (b : UInt8) : Bool :=
  0x30 ≤ b && b ≤ 0x39

def digitValue (b : UInt8) : Nat :=
  b.toNat - 0x30

def startsWithDigit : List UInt8 → Bool
  | b :: _ => isDigit b
  | [] => false

/-- Digits as a number, how many they are, and the bytes after them. -/
structure Digits where
  value : Nat
  count : Nat
  rest : List UInt8
deriving Repr

/-- Adds digits to a number as long as it stays below `limit`. -/
def takeDigits (limit : Nat) (digits : Digits) : Digits :=
  go digits.value digits.count digits.rest
where
  go (value count : Nat) : List UInt8 → Digits
    | [] => ⟨value, count, []⟩
    | b :: rest =>
      let next := value * 10 + digitValue b
      if isDigit b && next < limit then go next (count + 1) rest else ⟨value, count, b :: rest⟩

theorem takeDigits.length_go_le (limit : Nat) (bytes : List UInt8) :
    ∀ value count, (go limit value count bytes).rest.length ≤ bytes.length := by
  induction bytes with
  | nil => intro value count; simp [go]
  | cons b rest ih =>
    intro value count
    simp only [go]
    split
    · exact Nat.le_succ_of_le (ih _ _)
    · exact Nat.le_refl _

theorem length_takeDigits_le (limit : Nat) (digits : Digits) :
    (takeDigits limit digits).rest.length ≤ digits.rest.length :=
  takeDigits.length_go_le limit digits.rest _ _

def dropDigits (bytes : List UInt8) : List UInt8 :=
  bytes.dropWhile isDigit

theorem length_dropDigits_le (bytes : List UInt8) :
    (dropDigits bytes).length ≤ bytes.length := by
  induction bytes with
  | nil => simp [dropDigits]
  | cons b rest ih =>
    simp only [dropDigits, List.dropWhile_cons, List.length_cons] at ih ⊢
    split
    · omega
    · simp

def digitLimit : Nat := 0x10000000000000000

def exponentLimit : Nat := 0x80000000

def endInRange (bytes : List UInt8) :
    Option Binary64 → Except Stop (Step (bytes.length + 1) Binary64)
  | some x => .ok ⟨x, bytes, length_lt_succ bytes⟩
  | none => failAtPeek .numberOutOfRange bytes

def endDouble (negative : Bool) (digits : Nat) (exponent : Int) (bytes : List UInt8) :
    Except Stop (Step (bytes.length + 1) Binary64) :=
  endInRange bytes (Binary64.ofDecimal? negative digits exponent)

/-- Reads the digits of an exponent. One that reaches the limit is out of range where it stands,
unless the number is zero or the exponent negative: then the number is zero. -/
def exponentDigits (negative : Bool) (digits : Nat) (exponent : Int) (downward : Bool) :
    Reader Binary64
  | [] => fail .endInValue []
  | b :: rest =>
    if isDigit b then
      let power := takeDigits exponentLimit ⟨digitValue b, 1, rest⟩
      have le : power.rest.length ≤ rest.length := length_takeDigits_le _ _
      if startsWithDigit power.rest then
        if digits ≠ 0 ∧ ¬downward then
          fail .numberOutOfRange (power.rest.drop 1)
        else
          .ok ⟨Binary64.zero negative, dropDigits power.rest,
            Nat.lt_succ_of_le (Nat.le_trans (length_dropDigits_le _) le)⟩
      else
        let total := if downward then exponent - power.value else exponent + power.value
        match endDouble negative digits total power.rest with
        | .error stop => .error stop
        | .ok step => .ok (step.weaken (Nat.succ_le_succ le))
    else
      fail .invalidNumber rest

def exponentPart (negative : Bool) (digits : Nat) (exponent : Int) : Reader Binary64
  | [] => fail .endInValue []
  | b :: rest =>
    if b = 0x2B ∨ b = 0x2D then
      match exponentDigits negative digits exponent (b = 0x2D) rest with
      | .error stop => .error stop
      | .ok step => .ok (step.weaken (length_le_succ rest))
    else
      exponentDigits negative digits exponent false (b :: rest)

def isExponentLetter (b : UInt8) : Bool :=
  b == 0x65 || b == 0x45

def exponentIfAny (negative : Bool) (digits : Nat) (exponent : Int) (bytes : List UInt8) :
    Except Stop (Step (bytes.length + 1) Binary64) :=
  match bytes with
  | [] => endDouble negative digits exponent []
  | b :: rest =>
    if isExponentLetter b then
      match exponentPart negative digits exponent rest with
      | .error stop => .error stop
      | .ok step => .ok (step.weaken (Nat.le_succ_of_le (Nat.le_succ _)))
    else
      endDouble negative digits exponent (b :: rest)

def fractionPart (negative : Bool) (digits : Nat) (exponent : Int) (bytes : List UInt8) :
    Except Stop (Step (bytes.length + 1) Binary64) :=
  let fraction := takeDigits digitLimit ⟨digits, 0, bytes⟩
  have le : fraction.rest.length ≤ bytes.length := length_takeDigits_le _ _
  if fraction.count = 0 ∧ ¬startsWithDigit fraction.rest then
    blame (if fraction.rest.isEmpty then .endInValue else .invalidNumber) fraction.rest
  else
    match exponentIfAny negative fraction.value (exponent - fraction.count)
        (dropDigits fraction.rest) with
    | .error stop => .error stop
    | .ok step => .ok (step.weaken
        (Nat.succ_le_succ (Nat.le_trans (length_dropDigits_le _) le)))

/-- The integer with these digits, if it is one of 64 bits; there is no negative zero. -/
def Number.ofDigits? (negative : Bool) (digits : Nat) : Option Number :=
  if negative then
    if range : 0 < digits ∧ digits ≤ 0x8000000000000000 then
      some (.integer (-(digits : Int)) (by omega))
    else
      none
  else
    if range : digits < 0x10000000000000000 then
      some (.integer digits (by omega))
    else
      none

def endWhole (negative : Bool) (digits dropped : Nat) (bytes : List UInt8) :
    Except Stop (Step (bytes.length + 1) Number) :=
  match if dropped = 0 then Number.ofDigits? negative digits else none with
  | some integer => .ok ⟨integer, bytes, length_lt_succ bytes⟩
  | none => (endDouble negative digits dropped bytes).map (Step.map .double)

/-- Reads what follows the whole part of a number: its digits and how many were dropped. -/
def afterWhole (negative : Bool) (digits dropped : Nat) (bytes : List UInt8) :
    Except Stop (Step (bytes.length + 1) Number) :=
  match bytes with
  | [] => endWhole negative digits dropped []
  | b :: rest =>
    if b = 0x2E then
      match fractionPart negative digits dropped rest with
      | .error stop => .error stop
      | .ok step => .ok ((step.map .double).weaken (Nat.le_succ _))
    else if isExponentLetter b then
      match exponentPart negative digits dropped rest with
      | .error stop => .error stop
      | .ok step => .ok ((step.map .double).weaken (Nat.le_succ_of_le (Nat.le_succ _)))
    else
      endWhole negative digits dropped (b :: rest)

def numeral (negative : Bool) : Reader Number
  | [] => fail .endInValue []
  | b :: rest =>
    if b = 0x30 then
      if startsWithDigit rest then
        blame .invalidNumber rest
      else
        afterWhole negative 0 0 rest
    else if isDigit b then
      let whole := takeDigits digitLimit ⟨digitValue b, 1, rest⟩
      have le : whole.rest.length ≤ rest.length := length_takeDigits_le _ _
      let further := dropDigits whole.rest
      match afterWhole negative whole.value (whole.rest.length - further.length) further with
      | .error stop => .error stop
      | .ok step =>
        .ok (step.weaken (Nat.succ_le_succ (Nat.le_trans (length_dropDigits_le _) le)))
    else
      fail .invalidNumber rest

end NaturalKey.Json
