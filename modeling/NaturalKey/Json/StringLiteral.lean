import NaturalKey.Json.Reader
import NaturalKey.Text

/-!
Reading JSON strings, from after the opening quote. Escapes are replaced by the bytes of what they
stand for; the bytes between the quotes must then be UTF-8.
-/

set_option autoImplicit false

namespace NaturalKey.Json

def hexDigit? (b : UInt8) : Option Nat :=
  let n := b.toNat
  if 0x30 ≤ n ∧ n ≤ 0x39 then some (n - 0x30)
  else if 0x41 ≤ n ∧ n ≤ 0x46 then some (n - 0x41 + 10)
  else if 0x61 ≤ n ∧ n ≤ 0x66 then some (n - 0x61 + 10)
  else none

def hexNumber? (a b c d : UInt8) : Option Nat := do
  let w ← hexDigit? a
  let x ← hexDigit? b
  let y ← hexDigit? c
  let z ← hexDigit? d
  some (((w * 16 + x) * 16 + y) * 16 + z)

/-- Reads four hexadecimal digits. Fewer than four bytes are the end of the text. -/
def hexNumber : Reader Nat
  | a :: b :: c :: d :: rest =>
    match hexNumber? a b c d with
    | some n => .ok ⟨n, rest, by simp only [List.length_cons]; omega⟩
    | none => fail .invalidEscape rest
  | _ => fail .endInString []

def isHighSurrogate (n : Nat) : Bool :=
  0xD800 ≤ n && n ≤ 0xDBFF

def isLowSurrogate (n : Nat) : Bool :=
  0xDC00 ≤ n && n ≤ 0xDFFF

def combineSurrogates (high low : Nat) : Nat :=
  0x10000 + (high - 0xD800) * 0x400 + (low - 0xDC00)

def lowSurrogate : Reader Nat
  | [] => fail .endInString []
  | b :: rest =>
    if b ≠ 0x5C then
      fail .unpairedSurrogate rest
    else
      match rest with
      | [] => fail .endInString []
      | c :: rest =>
        if c ≠ 0x75 then
          fail .unpairedSurrogate rest
        else
          match hexNumber rest with
          | .error stop => .error stop
          | .ok step =>
            if isLowSurrogate step.value then
              .ok (step.weaken (by simp only [List.length_cons]; omega))
            else
              fail .loneSurrogate step.rest

/-- Reads the number of an escaped character, from after the letter `u`. -/
def unicodeEscape : Reader Char := fun bytes =>
  match hexNumber bytes with
  | .error stop => .error stop
  | .ok step =>
    if isLowSurrogate step.value then
      fail .loneSurrogate step.rest
    else if isHighSurrogate step.value then
      match lowSurrogate step.rest with
      | .error stop => .error stop
      | .ok low =>
        .ok ⟨Char.ofNat (combineSurrogates step.value low.value), low.rest,
          Nat.lt_trans low.shorter step.shorter⟩
    else
      .ok (step.map Char.ofNat)

/-- What a letter after a backslash stands for, the letter `u` apart. -/
def simpleEscape? (letter : UInt8) : Option Char :=
  if letter = 0x22 then some '\x22'
  else if letter = 0x5C then some '\\'
  else if letter = 0x2F then some '/'
  else if letter = 0x62 then some '\x08'
  else if letter = 0x66 then some '\x0c'
  else if letter = 0x6E then some '\n'
  else if letter = 0x72 then some '\r'
  else if letter = 0x74 then some '\t'
  else none

def escaped : Reader Char
  | [] => fail .endInString []
  | letter :: rest =>
    match simpleEscape? letter with
    | some c => .ok ⟨c, rest, length_lt_succ rest⟩
    | none =>
      if letter = 0x75 then
        match unicodeEscape rest with
        | .error stop => .error stop
        | .ok step => .ok (step.weaken (length_le_succ rest))
      else
        fail .invalidEscape rest

/-- Reads the bytes of a string up to the closing quote; `taken` are those read so far, the last
one first. -/
def stringBytes {bound : Nat} (taken : List UInt8) (bytes : List UInt8)
    (le : bytes.length ≤ bound) : Except Stop (Step bound (List UInt8)) :=
  match bytes with
  | [] => fail .endInString []
  | b :: rest =>
    if b = 0x22 then
      .ok ⟨taken.reverse, rest, le⟩
    else if b = 0x5C then
      match escaped rest with
      | .error stop => .error stop
      | .ok ⟨c, rest', shorter⟩ =>
        stringBytes ((Utf8.encodeChar c).reverse ++ taken) rest' (by
          simp only [List.length_cons] at le
          omega)
    else if b.toNat < 0x20 then
      fail .controlCharacter rest
    else
      stringBytes (b :: taken) rest (Nat.le_of_lt le)
termination_by bytes.length
decreasing_by all_goals simp only [List.length_cons]; omega

def stringRest : Reader String := fun bytes =>
  match stringBytes [] bytes (length_le bytes) with
  | .error stop => .error stop
  | .ok step =>
    match Utf8.decode step.value with
    | (chars, []) => .ok ⟨String.ofList chars, step.rest, step.shorter⟩
    | (_, b :: more) => fail (.notUtf8 (b :: more).length) step.rest

end NaturalKey.Json
