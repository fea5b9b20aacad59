import Mathlib.Data.List.Basic
import NaturalKey.Text

/-!
Texts survive their bytes: decoding undoes encoding, so texts of the same bytes are the same, and
nothing else is read as a text. A byte below `0x80` stands for itself only, never for a part of
another character. The order of texts is that of their bytes.
-/

set_option autoImplicit false

namespace NaturalKey.Utf8

theorem toNat_lt (c : Char) : c.toNat < 0x110000 := by
  have := c.valid
  simp only [UInt32.isValidChar, Nat.isValidChar, Char.toNat] at this ⊢
  omega

theorem isValidChar_toNat (c : Char) : c.toNat.isValidChar :=
  c.valid

theorem scalar?_toNat {least : Nat} {c : Char} (h : least ≤ c.toNat) :
    scalar? least c.toNat = some c := by
  simp [scalar?, h, isValidChar_toNat]

theorem continuation?_ofNat {n : Nat} (h : n < 0x40) :
    continuation? (.ofNat (0x80 + n)) = some n := by
  have : (UInt8.ofNat (0x80 + n)).toNat = 0x80 + n := by
    rw [UInt8.toNat_ofNat']
    omega
  simp only [continuation?, this]
  rw [if_pos (by omega)]
  simp

theorem bind_three {x y z : Nat} {c : Char} {rest : List UInt8}
    {number? : Nat → Nat → Nat → Option Char} (found : number? x y z = some c) :
    (do let x ← some x; let y ← some y; let z ← some z; let c ← number? x y z; some (c, rest)) =
      some (c, rest) := by
  simp only [Option.bind_eq_bind, Option.bind_some, found]

section Next

variable {b₁ b₂ b₃ b₄ : UInt8} {n x y z : Nat} {c : Char}

theorem next?_two (lead : b₁.toNat = 0xC0 + n) (small : n < 0x20)
    (second : continuation? b₂ = some x)
    (value : n * 0x40 + x = c.toNat) (least : 0x80 ≤ c.toNat) (rest : List UInt8) :
    next? (b₁ :: b₂ :: rest) = some (c, rest) := by
  simp only [next?, lead, Nat.add_sub_cancel_left]
  rw [if_neg (by omega), if_neg (by omega), if_pos (by omega)]
  have found := scalar?_toNat least
  generalize scalar? 0x80 = number? at found ⊢
  simp only [second, Option.bind_eq_bind, Option.bind_some, value, found]

theorem next?_three (lead : b₁.toNat = 0xE0 + n) (small : n < 0x10)
    (second : continuation? b₂ = some x) (third : continuation? b₃ = some y)
    (value : n * 0x1000 + x * 0x40 + y = c.toNat) (least : 0x800 ≤ c.toNat) (rest : List UInt8) :
    next? (b₁ :: b₂ :: b₃ :: rest) = some (c, rest) := by
  simp only [next?, lead, Nat.add_sub_cancel_left]
  rw [if_neg (by omega), if_neg (by omega), if_neg (by omega), if_pos (by omega)]
  have found := scalar?_toNat least
  generalize scalar? 0x800 = number? at found ⊢
  simp only [second, third, Option.bind_eq_bind, Option.bind_some, value, found]

theorem next?_four (lead : b₁.toNat = 0xF0 + n) (small : n < 8)
    (second : continuation? b₂ = some x) (third : continuation? b₃ = some y)
    (fourth : continuation? b₄ = some z)
    (value : n * 0x40000 + x * 0x1000 + y * 0x40 + z = c.toNat) (least : 0x10000 ≤ c.toNat)
    (rest : List UInt8) : next? (b₁ :: b₂ :: b₃ :: b₄ :: rest) = some (c, rest) := by
  simp only [next?, lead, Nat.add_sub_cancel_left]
  rw [if_neg (by omega), if_neg (by omega), if_neg (by omega), if_neg (by omega),
    if_pos (by omega)]
  rw [second, third, fourth]
  have found := scalar?_toNat least
  rw [← value] at found
  exact bind_three found

end Next

theorem toNat_ofNat_lead {lead n : Nat} (h : lead + n < 0x100) :
    (UInt8.ofNat (lead + n)).toNat = lead + n := by
  rw [UInt8.toNat_ofNat']
  omega

/-- A character is read off the front of whatever starts with its bytes. -/
theorem next?_encodeChar (c : Char) (rest : List UInt8) :
    next? (encodeChar c ++ rest) = some (c, rest) := by
  have bound := toNat_lt c
  simp only [encodeChar]
  split
  · simp only [List.cons_append, List.nil_append, next?, UInt8.toNat_ofNat']
    rw [if_pos (by omega), Nat.mod_eq_of_lt (by omega), Char.ofNat_toNat]
  split
  · exact next?_two (toNat_ofNat_lead (by omega)) (by omega) (continuation?_ofNat (by omega))
      (by omega) (by omega) rest
  split
  · exact next?_three (toNat_ofNat_lead (by omega)) (by omega) (continuation?_ofNat (by omega))
      (continuation?_ofNat (by omega)) (by omega) (by omega) rest
  · exact next?_four (toNat_ofNat_lead (by omega)) (by omega) (continuation?_ofNat (by omega))
      (continuation?_ofNat (by omega)) (continuation?_ofNat (by omega)) (by omega) (by omega) rest

/-- Bytes that start with those of a character are the bytes of no other text than one that starts
with it. -/
theorem exists_cons_of_flatMap_encodeChar_eq {chars : List Char} {c : Char} {rest : List UInt8}
    (h : chars.flatMap encodeChar = encodeChar c ++ rest) :
    ∃ others, chars = c :: others ∧ others.flatMap encodeChar = rest := by
  have found := next?_encodeChar c rest
  rw [← h] at found
  cases chars with
  | nil => cases found
  | cons d others =>
    rw [List.flatMap_cons, next?_encodeChar, Option.some.injEq, Prod.mk.injEq] at found
    obtain ⟨rfl, same⟩ := found
    exact ⟨others, rfl, same⟩

theorem decodeFrom_of_next?_eq_none (taken : List Char) {bytes : List UInt8}
    (h : next? bytes = none) : decodeFrom taken bytes = (taken.reverse, bytes) := by
  rw [decodeFrom]
  split
  · rfl
  · simp_all

theorem decodeFrom_of_next?_eq_some {taken : List Char} {bytes rest : List UInt8} {c : Char}
    (h : next? bytes = some (c, rest)) :
    decodeFrom taken bytes = decodeFrom (c :: taken) rest := by
  rw [decodeFrom]
  split <;> simp_all

theorem decodeFrom_flatMap_encodeChar (taken chars : List Char) :
    decodeFrom taken (chars.flatMap encodeChar) = (taken.reverse ++ chars, []) := by
  induction chars generalizing taken with
  | nil => simpa using decodeFrom_of_next?_eq_none taken (rfl : next? [] = none)
  | cons c chars ih =>
    rw [List.flatMap_cons, decodeFrom_of_next?_eq_some (next?_encodeChar c _), ih]
    simp

@[simp]
theorem decode_encode (text : String) : decode (encode text) = (text.toList, []) :=
  decodeFrom_flatMap_encodeChar [] text.toList

@[simp]
theorem decode?_encode (text : String) : decode? (encode text) = some text := by
  simp [decode?]

theorem encode_injective {s t : String} (h : encode s = encode t) : s = t := by
  have same := congrArg (fun bytes => (decode bytes).1) h
  simp only [decode_encode] at same
  exact String.toList_inj.mp same

@[simp]
theorem encode_ofList (chars : List Char) :
    encode (String.ofList chars) = chars.flatMap encodeChar := by
  simp [encode]

theorem encodeChar_ne_nil (c : Char) : encodeChar c ≠ [] := by
  intro none
  have found := next?_encodeChar c []
  rw [none] at found
  cases found

theorem encodeChar_cases (c : Char) :
    c.toNat < 0x80 ∧ encodeChar c = [.ofNat c.toNat] ∨
      0x80 ≤ c.toNat ∧ ∀ b ∈ encodeChar c, 0x80 ≤ b.toNat := by
  have bound := toNat_lt c
  rcases Nat.lt_or_ge c.toNat 0x80 with small | large
  · left
    exact ⟨small, by rw [encodeChar, if_pos small]⟩
  · right
    refine ⟨large, ?_⟩
    simp only [encodeChar]
    rw [if_neg (by omega)]
    split
    · simp only [List.forall_mem_cons, UInt8.toNat_ofNat', List.not_mem_nil, false_implies,
        implies_true, and_true]
      omega
    split
    · simp only [List.forall_mem_cons, UInt8.toNat_ofNat', List.not_mem_nil, false_implies,
        implies_true, and_true]
      omega
    · simp only [List.forall_mem_cons, UInt8.toNat_ofNat', List.not_mem_nil, false_implies,
        implies_true, and_true]
      omega

/-- A character begins with a byte that goes on no other one, and goes on with bytes that do. -/
theorem encodeChar_eq_cons (c : Char) : ∃ lead more, encodeChar c = lead :: more ∧
    continuation? lead = none ∧ ∀ b ∈ more, (continuation? b).isSome = true := by
  have bound := toNat_lt c
  have begins {lead n : Nat} (least : lead < 0x80 ∨ 0xC0 ≤ lead) (fits : n < 0x100 - lead)
      (below : lead < 0x80 → lead + n < 0x80) : continuation? (.ofNat (lead + n)) = none := by
    rw [continuation?, toNat_ofNat_lead (by omega), if_neg (by omega)]
  have goesOn (n : Nat) : (continuation? (.ofNat (0x80 + n % 0x40))).isSome = true := by
    rw [continuation?_ofNat (Nat.mod_lt _ (by decide))]
    rfl
  simp only [encodeChar]
  split
  · have single := begins (n := c.toNat) (.inl (by decide : 0 < 0x80)) (by omega) (by omega)
    exact ⟨_, _, rfl, by simpa using single, nofun⟩
  split
  · refine ⟨_, _, rfl, begins (by decide) (by omega) (by omega), ?_⟩
    exact List.forall_mem_singleton.mpr (goesOn _)
  split
  · refine ⟨_, _, rfl, begins (by decide) (by omega) (by omega), ?_⟩
    exact List.forall_mem_cons.mpr ⟨goesOn _, List.forall_mem_singleton.mpr (goesOn _)⟩
  · refine ⟨_, _, rfl, begins (by decide) (by omega) (by omega), ?_⟩
    exact List.forall_mem_cons.mpr
      ⟨goesOn _, List.forall_mem_cons.mpr ⟨goesOn _, List.forall_mem_singleton.mpr (goesOn _)⟩⟩

theorem eq_of_mem_encodeChar {c : Char} {b : UInt8} (h : b ∈ encodeChar c)
    (small : b.toNat < 0x80) :
    c.toNat = b.toNat := by
  rcases encodeChar_cases c with ⟨bound, single⟩ | ⟨-, large⟩
  · rw [single, List.mem_singleton] at h
    rw [h, UInt8.toNat_ofNat', Nat.mod_eq_of_lt (by omega)]
  · exact absurd (large b h) (by omega)

theorem toNat_head {text : String} {b : UInt8} (first : (encode text).head? = some b)
    (small : b.toNat < 0x80) {c : Char} (h : text.toList.head? = some c) : c.toNat = b.toNat := by
  obtain ⟨chars, split⟩ := List.head?_eq_some_iff.mp h
  rw [encode, split, List.flatMap_cons,
    List.head?_append_of_ne_nil _ (encodeChar_ne_nil c)] at first
  exact eq_of_mem_encodeChar (List.mem_of_mem_head? first) small

theorem toNat_getLast {text : String} {b : UInt8} (last : (encode text).getLast? = some b)
    (small : b.toNat < 0x80) {c : Char} (h : text.toList.getLast? = some c) :
    c.toNat = b.toNat := by
  obtain ⟨chars, split⟩ := List.getLast?_eq_some_iff.mp h
  rw [encode, split, List.flatMap_append, List.flatMap_singleton,
    List.getLast?_append_of_ne_nil _ (encodeChar_ne_nil c)] at last
  exact eq_of_mem_encodeChar (List.mem_of_mem_getLast? last) small

/-! ### Bytes that are read -/

theorem continuation?_eq_some_iff {b : UInt8} {x : Nat} :
    continuation? b = some x ↔ x < 0x40 ∧ b = .ofNat (0x80 + x) := by
  constructor
  · intro found
    rw [continuation?] at found
    split at found
    · rename_i range
      obtain rfl := Option.some.inj found
      refine ⟨by omega, ?_⟩
      rw [Nat.add_sub_cancel' range.1, UInt8.ofNat_toNat]
    · cases found
  · rintro ⟨small, rfl⟩
    exact continuation?_ofNat small

theorem toNat_ofNat_of_isValidChar {n : Nat} (h : n.isValidChar) : (Char.ofNat n).toNat = n := by
  rw [Char.ofNat, dif_pos h]
  rfl

theorem encodeChar_ofNat {n : Nat} (h : n < 0x80) : encodeChar (.ofNat n) = [.ofNat n] := by
  have valid : n.isValidChar := .inl (by omega)
  rw [encodeChar, toNat_ofNat_of_isValidChar valid, if_pos h]

theorem toNat_of_scalar? {least n : Nat} {c : Char} (h : scalar? least n = some c) :
    least ≤ c.toNat ∧ c.toNat = n := by
  rw [scalar?] at h
  split at h
  · rename_i valid
    obtain rfl := Option.some.inj h
    rw [toNat_ofNat_of_isValidChar valid.2]
    exact ⟨valid.1, rfl⟩
  · cases h

theorem exists_lead {a : UInt8} {lead : Nat} (bound : Nat) (least : lead ≤ a.toNat)
    (small : a.toNat < lead + bound) : ∃ n < bound, a = .ofNat (lead + n) ∧ a.toNat - lead = n := by
  refine ⟨a.toNat - lead, by omega, ?_, rfl⟩
  rw [Nat.add_sub_cancel' least, UInt8.ofNat_toNat]

section Size

variable {c : Char} {n x y z : Nat}

theorem encodeChar_two (value : c.toNat = n * 0x40 + x) (last : x < 0x40) (least : 0x80 ≤ c.toNat)
    (small : n < 0x20) : encodeChar c = [.ofNat (0xC0 + n), .ofNat (0x80 + x)] := by
  have lead : c.toNat / 0x40 = n := by omega
  have second : c.toNat % 0x40 = x := by omega
  simp only [encodeChar, lead, second]
  rw [if_neg (by omega), if_pos (by omega)]

theorem encodeChar_three (value : c.toNat = n * 0x1000 + x * 0x40 + y) (middle : x < 0x40)
    (last : y < 0x40) (least : 0x800 ≤ c.toNat) (small : n < 0x10) :
    encodeChar c = [.ofNat (0xE0 + n), .ofNat (0x80 + x), .ofNat (0x80 + y)] := by
  have lead : c.toNat / 0x1000 = n := by omega
  have second : c.toNat / 0x40 % 0x40 = x := by omega
  have third : c.toNat % 0x40 = y := by omega
  simp only [encodeChar, lead, second, third]
  rw [if_neg (by omega), if_neg (by omega), if_pos (by omega)]

theorem encodeChar_four (value : c.toNat = n * 0x40000 + x * 0x1000 + y * 0x40 + z)
    (first : x < 0x40) (middle : y < 0x40) (last : z < 0x40) (least : 0x10000 ≤ c.toNat) :
    encodeChar c =
      [.ofNat (0xF0 + n), .ofNat (0x80 + x), .ofNat (0x80 + y), .ofNat (0x80 + z)] := by
  have lead : c.toNat / 0x40000 = n := by omega
  have second : c.toNat / 0x1000 % 0x40 = x := by omega
  have third : c.toNat / 0x40 % 0x40 = y := by omega
  have fourth : c.toNat % 0x40 = z := by omega
  simp only [encodeChar, lead, second, third, fourth]
  rw [if_neg (by omega), if_neg (by omega), if_neg (by omega)]

end Size

/-- What is read off as a character are the bytes of that character and no others. -/
theorem eq_encodeChar_append_of_next? {bytes rest : List UInt8} {c : Char}
    (h : next? bytes = some (c, rest)) : bytes = encodeChar c ++ rest := by
  match bytes with
  | [] => cases h
  | a :: more =>
    simp only [next?] at h
    by_cases one : a.toNat < 0x80
    · rw [if_pos one] at h
      cases h
      rw [encodeChar_ofNat one, UInt8.ofNat_toNat]
      rfl
    by_cases none : a.toNat < 0xC0
    · rw [if_neg one, if_pos none] at h
      cases h
    by_cases two : a.toNat < 0xE0
    · rw [if_neg one, if_neg none, if_pos two] at h
      obtain ⟨n, small, lead, above⟩ := exists_lead 0x20 (Nat.le_of_not_lt none) two
      split at h
      · simp only [Option.bind_eq_bind, Option.bind_eq_some_iff, continuation?_eq_some_iff,
          above] at h
        obtain ⟨x, ⟨last, rfl⟩, d, found, same⟩ := h
        cases same
        obtain ⟨least, number⟩ := toNat_of_scalar? found
        rw [encodeChar_two number last least small, lead]
        rfl
      · cases h
    by_cases three : a.toNat < 0xF0
    · rw [if_neg one, if_neg none, if_neg two, if_pos three] at h
      obtain ⟨n, small, lead, above⟩ := exists_lead 0x10 (Nat.le_of_not_lt two) three
      split at h
      · simp only [Option.bind_eq_bind, Option.bind_eq_some_iff, continuation?_eq_some_iff,
          above] at h
        obtain ⟨x, ⟨middle, rfl⟩, y, ⟨last, rfl⟩, d, found, same⟩ := h
        cases same
        obtain ⟨least, number⟩ := toNat_of_scalar? found
        rw [encodeChar_three number middle last least small, lead]
        rfl
      · cases h
    by_cases four : a.toNat < 0xF8
    · rw [if_neg one, if_neg none, if_neg two, if_neg three, if_pos four] at h
      obtain ⟨n, small, lead, above⟩ := exists_lead 0x8 (Nat.le_of_not_lt three) four
      split at h
      · simp only [Option.bind_eq_bind, Option.bind_eq_some_iff, continuation?_eq_some_iff,
          above] at h
        obtain ⟨x, ⟨first, rfl⟩, y, ⟨middle, rfl⟩, z, ⟨last, rfl⟩, d, found, same⟩ := h
        cases same
        obtain ⟨least, number⟩ := toNat_of_scalar? found
        rw [encodeChar_four number first middle last least, lead]
        rfl
      · cases h
    · rw [if_neg one, if_neg none, if_neg two, if_neg three, if_neg four] at h
      cases h

theorem decodeFrom_eq {taken chars : List Char} {bytes rest : List UInt8}
    (h : decodeFrom taken bytes = (chars, rest)) :
    ∃ more, chars = taken.reverse ++ more ∧ bytes = more.flatMap encodeChar ++ rest := by
  fun_induction decodeFrom taken bytes with
  | case1 taken bytes none =>
    cases h
    exact ⟨[], (List.append_nil _).symm, rfl⟩
  | case2 taken bytes c others found _ ih =>
    obtain ⟨more, rfl, written⟩ := ih h
    refine ⟨c :: more, ?_, ?_⟩
    · rw [List.reverse_cons, List.append_assoc, List.singleton_append]
    · rw [eq_encodeChar_append_of_next? found, written, List.flatMap_cons, List.append_assoc]

/-- A text is read from its bytes and from no others. -/
theorem decode?_eq_some_iff {bytes : List UInt8} {text : String} :
    decode? bytes = some text ↔ bytes = encode text := by
  constructor
  · intro read
    simp only [decode?] at read
    split at read
    · rename_i chars decoded
      cases read
      obtain ⟨more, rfl, written⟩ := decodeFrom_eq decoded
      rw [written, List.append_nil, encode_ofList]
    · cases read
  · rintro rfl
    exact decode?_encode text

/-! ### The order of bytes -/

theorem cons_ofNat_lt_cons {m n : Nat} {xs ys : List UInt8} (small : n < 0x100) (le : m ≤ n)
    (others : m = n → xs < ys) : UInt8.ofNat m :: xs < UInt8.ofNat n :: ys := by
  apply List.cons_lt_cons_iff.mpr
  rcases Nat.lt_or_eq_of_le le with below | rfl
  · left
    rw [UInt8.lt_iff_toNat_lt, UInt8.toNat_ofNat', UInt8.toNat_ofNat', Nat.mod_eq_of_lt small,
      Nat.mod_eq_of_lt (by omega)]
    exact below
  · exact .inr ⟨rfl, others rfl⟩

/-- Of two characters the one with the smaller number has the smaller bytes, whatever follows. -/
theorem encodeChar_append_lt {c d : Char} (h : c < d) (xs ys : List UInt8) :
    encodeChar c ++ xs < encodeChar d ++ ys := by
  have numbers : c.toNat < d.toNat := h
  have bound := toNat_lt d
  simp only [encodeChar]
  repeat' split
  any_goals omega
  -- A longer character starts with a larger byte; as long ones differ where their numbers do.
  all_goals
    simp only [List.cons_append, List.nil_append]
    repeat
      first
      | omega
      | refine cons_ofNat_lt_cons (by omega) (by omega) fun _ => ?_

theorem flatMap_encodeChar_lt {chars others : List Char} (h : chars < others) :
    chars.flatMap encodeChar < others.flatMap encodeChar := by
  induction h with
  | @nil c others =>
    obtain ⟨b, bytes, start⟩ := List.exists_cons_of_ne_nil (encodeChar_ne_nil c)
    rw [List.flatMap_nil, List.flatMap_cons, start]
    exact List.nil_lt_cons b _
  | rel below => exact encodeChar_append_lt below _ _
  | cons _ ih => exact List.append_left_lt ih

theorem encode_lt_encode_of_compare {s t : String} (h : compare s t = .lt) :
    encode s < encode t :=
  flatMap_encodeChar_lt (String.lt_iff.mp (compareOfLessAndEq_eq_lt.mp h))

end NaturalKey.Utf8
