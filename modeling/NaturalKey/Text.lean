/-!
Texts: the white space that surrounds a name without belonging to it, and UTF-8, every character as
one to four bytes, and back.
-/

set_option autoImplicit false

/-! ### White space

As Unicode's `White_Space` property has it.
-/

namespace NaturalKey.Text

/-- The 25 characters of the property `White_Space`. Zero-width characters are not among them. -/
def isSpace (c : Char) : Bool :=
  let n := c.toNat
  (0x09 ≤ n && n ≤ 0x0D) || n == 0x20 || n == 0x85 || n == 0xA0 || n == 0x1680 ||
    (0x2000 ≤ n && n ≤ 0x200A) || n == 0x2028 || n == 0x2029 || n == 0x202F || n == 0x205F ||
    n == 0x3000

/-- A blank text holds white space only; the empty text is blank. -/
def isBlank (text : String) : Bool :=
  text.toList.all isSpace

def trimStart (chars : List Char) : List Char :=
  chars.dropWhile isSpace

def trimEnd (chars : List Char) : List Char :=
  (chars.reverse.dropWhile isSpace).reverse

/-- The text without the white space at its two ends. -/
def trim (text : String) : String :=
  String.ofList (trimEnd (trimStart text.toList))

@[simp]
theorem toList_trim (text : String) : (trim text).toList = trimEnd (trimStart text.toList) := by
  simp [trim]

end NaturalKey.Text

/-! ### UTF-8

Bytes need not be well formed, so reading them says how far they are.
-/

namespace NaturalKey.Utf8

/-- The bytes of one character, the high bits first. -/
def encodeChar (c : Char) : List UInt8 :=
  let n := c.toNat
  if n < 0x80 then
    [.ofNat n]
  else if n < 0x800 then
    [.ofNat (0xC0 + n / 0x40), .ofNat (0x80 + n % 0x40)]
  else if n < 0x10000 then
    [.ofNat (0xE0 + n / 0x1000), .ofNat (0x80 + n / 0x40 % 0x40), .ofNat (0x80 + n % 0x40)]
  else
    [.ofNat (0xF0 + n / 0x40000), .ofNat (0x80 + n / 0x1000 % 0x40),
      .ofNat (0x80 + n / 0x40 % 0x40), .ofNat (0x80 + n % 0x40)]

def encode (text : String) : List UInt8 :=
  text.toList.flatMap encodeChar

@[simp]
theorem encode_empty : encode "" = [] := by
  simp [encode]

@[simp]
theorem encode_append (s t : String) : encode (s ++ t) = encode s ++ encode t := by
  simp [encode]

def continuation? (b : UInt8) : Option Nat :=
  if 0x80 ≤ b.toNat ∧ b.toNat < 0xC0 then some (b.toNat - 0x80) else none

/-- The character with this number, if there is one and it is not below `least`: the same number
written with more bytes than it needs is ill formed. -/
def scalar? (least n : Nat) : Option Char :=
  if least ≤ n ∧ n.isValidChar then some (Char.ofNat n) else none

/-- The first character and the bytes after it; `none` at the end and where no well-formed
character starts. -/
def next? : List UInt8 → Option (Char × List UInt8)
  | [] => none
  | a :: rest =>
    let n := a.toNat
    if n < 0x80 then
      some (Char.ofNat n, rest)
    else if n < 0xC0 then
      none
    else if n < 0xE0 then
      match rest with
      | b :: rest => do
        let x ← continuation? b
        let c ← scalar? 0x80 ((n - 0xC0) * 0x40 + x)
        some (c, rest)
      | _ => none
    else if n < 0xF0 then
      match rest with
      | b :: c :: rest => do
        let x ← continuation? b
        let y ← continuation? c
        let c ← scalar? 0x800 ((n - 0xE0) * 0x1000 + x * 0x40 + y)
        some (c, rest)
      | _ => none
    else if n < 0xF8 then
      match rest with
      | b :: c :: d :: rest => do
        let x ← continuation? b
        let y ← continuation? c
        let z ← continuation? d
        let c ← scalar? 0x10000 ((n - 0xF0) * 0x40000 + x * 0x1000 + y * 0x40 + z)
        some (c, rest)
      | _ => none
    else
      none

theorem length_lt_of_next? {bytes rest : List UInt8} {c : Char}
    (h : next? bytes = some (c, rest)) : rest.length < bytes.length := by
  match bytes with
  | [] => simp [next?] at h
  | a :: more =>
    simp only [next?] at h
    by_cases one : a.toNat < 0x80
    · simp_all
    by_cases none : a.toNat < 0xC0
    · simp [one, none] at h
    by_cases two : a.toNat < 0xE0
    · rw [if_neg one, if_neg none, if_pos two] at h
      split at h
      · simp [Option.bind_eq_some_iff] at h
        grind
      · simp at h
    by_cases three : a.toNat < 0xF0
    · rw [if_neg one, if_neg none, if_neg two, if_pos three] at h
      split at h
      · simp [Option.bind_eq_some_iff] at h
        grind
      · simp at h
    by_cases four : a.toNat < 0xF8
    · rw [if_neg one, if_neg none, if_neg two, if_neg three, if_pos four] at h
      split at h
      · simp [Option.bind_eq_some_iff] at h
        grind
      · simp at h
    · simp [one, none, two, three, four] at h

/-- Reads characters as long as they are well formed; `bytes` are those not read yet. -/
def decodeFrom (chars : List Char) (bytes : List UInt8) : List Char × List UInt8 :=
  match h : next? bytes with
  | none => (chars.reverse, bytes)
  | some (c, rest) =>
    have := length_lt_of_next? h
    decodeFrom (c :: chars) rest
termination_by bytes.length

/-- The characters up to the first ill-formed byte, and the bytes from there on. -/
def decode (bytes : List UInt8) : List Char × List UInt8 :=
  decodeFrom [] bytes

def decode? (bytes : List UInt8) : Option String :=
  match decode bytes with
  | (chars, []) => some (String.ofList chars)
  | (_, _ :: _) => none

def validLength (bytes : List UInt8) : Nat :=
  bytes.length - (decode bytes).2.length

end NaturalKey.Utf8
