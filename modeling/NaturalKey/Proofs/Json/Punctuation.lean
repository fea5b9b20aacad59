import NaturalKey.Proofs.Json.Numeral
import NaturalKey.Proofs.Json.StringLiteral

/-!
What stands between brackets and braces, whatever the items and members are: white space, commas and
colons. Items are read one after another, and so are members, and the first that fails is the
failure of them all.
-/

set_option autoImplicit false

namespace NaturalKey.Json

variable {ι ν : Type}

/-- Items with commas between them, up to the closing bracket. -/
inductive ItemsOf (Spelled : ι → List UInt8 → Prop) : Bool → List ι → List UInt8 → Prop
  | close {first : Bool} {space : List UInt8} : Space space →
      ItemsOf Spelled first [] (space ++ [0x5D])
  | more {first : Bool} {item : ι} {items : List ι} {lead bytes others : List UInt8} :
      Lead first lead → Spelled item bytes → ItemsOf Spelled false items others →
      ItemsOf Spelled first (item :: items) (lead ++ (bytes ++ others))

inductive MembersOf (Named : ν → List UInt8 → Prop) (Spelled : ι → List UInt8 → Prop) :
    Bool → List (ν × ι) → List UInt8 → Prop
  | close {first : Bool} {space : List UInt8} : Space space →
      MembersOf Named Spelled first [] (space ++ [0x7D])
  | more {first : Bool} {name : ν} {value : ι} {members : List (ν × ι)}
      {lead letters before after bytes others : List UInt8} :
      Lead first lead → Named name letters → Space before → Space after → Spelled value bytes →
      MembersOf Named Spelled false members others →
      MembersOf Named Spelled first ((name, value) :: members)
        (lead ++ 0x22 :: (letters ++ 0x22 :: (before ++ 0x3A :: (after ++ (bytes ++ others)))))

theorem MembersOf.imp {Named Named' : ν → List UInt8 → Prop}
    {Spelled Spelled' : ι → List UInt8 → Prop}
    {first : Bool} {members : List (ν × ι)} {bytes : List UInt8}
    (h : MembersOf Named Spelled first members bytes)
    (names : ∀ name letters, Named name letters → Named' name letters)
    (values : ∀ member ∈ members, ∀ bytes, Spelled member.2 bytes → Spelled' member.2 bytes) :
    MembersOf Named' Spelled' first members bytes := by
  induction h with
  | close space => exact .close space
  | more lead named before after spelled _ ih =>
    exact .more lead (names _ _ named) before after (values _ List.mem_cons_self _ spelled)
      (ih fun member among => values member (List.mem_cons_of_mem _ among))

theorem ItemsOf.imp {Spelled Spelled' : ι → List UInt8 → Prop} {first : Bool} {items : List ι}
    {bytes : List UInt8} (h : ItemsOf Spelled first items bytes)
    (each : ∀ item ∈ items, ∀ text, Spelled item text → Spelled' item text) :
    ItemsOf Spelled' first items bytes := by
  induction h with
  | close space => exact .close space
  | more lead spelled _ ih =>
    exact .more lead (each _ List.mem_cons_self _ spelled)
      (ih fun item among => each item (List.mem_cons_of_mem _ among))

section Map

variable {κ μ : Type} {first : Bool} {bytes : List UInt8}

theorem itemsOf_map_iff {Spelled : ι → List UInt8 → Prop} {f : κ → ι} {items : List κ} :
    ItemsOf Spelled first (items.map f) bytes ↔
      ItemsOf (fun item => Spelled (f item)) first items bytes := by
  induction items generalizing first bytes with
  | nil =>
    constructor <;> rintro ⟨space⟩
    · exact .close space
    · exact .close space
  | cons item items ih =>
    constructor
    · rintro (_ | ⟨lead, spelled, others⟩)
      exact .more lead spelled (ih.mp others)
    · rintro (_ | ⟨lead, spelled, others⟩)
      exact .more lead spelled (ih.mpr others)

theorem membersOf_map_iff {Named : ν → List UInt8 → Prop} {Spelled : ι → List UInt8 → Prop}
    {f : μ → ν} {g : κ → ι} {members : List (μ × κ)} :
    MembersOf Named Spelled first (members.map fun member => (f member.1, g member.2)) bytes ↔
      MembersOf (fun name => Named (f name)) (fun value => Spelled (g value))
        first members bytes := by
  induction members generalizing first bytes with
  | nil =>
    constructor <;> rintro ⟨space⟩
    · exact .close space
    · exact .close space
  | cons member members ih =>
    constructor
    · rintro (_ | ⟨lead, named, before, after, spelled, others⟩)
      exact .more lead named before after spelled (ih.mp others)
    · rintro (_ | ⟨lead, named, before, after, spelled, others⟩)
      exact .more lead named before after spelled (ih.mpr others)

end Map

section Texts

variable {bytes : List UInt8}

theorem ItemsOf.exists_texts {Spelled : ι → List UInt8 → Prop} {first : Bool} {items : List ι}
    (h : ItemsOf Spelled first items bytes) : ∃ pairs : List (ι × List UInt8),
      pairs.map Prod.fst = items ∧ (∀ pair ∈ pairs, Spelled pair.1 pair.2) ∧
      ItemsOf (·.2 = ·) first pairs bytes := by
  induction h with
  | close space => exact ⟨[], rfl, nofun, .close space⟩
  | @more _ item _ _ text _ lead spelled _ ih =>
    obtain ⟨pairs, same, each, others⟩ := ih
    exact ⟨(item, text) :: pairs, congrArg _ same, List.forall_mem_cons.mpr ⟨spelled, each⟩,
      .more lead rfl others⟩

theorem MembersOf.exists_texts {Named : ν → List UInt8 → Prop}
    {Spelled : ι → List UInt8 → Prop} {first : Bool} {members : List (ν × ι)}
    (h : MembersOf Named Spelled first members bytes) : ∃ entries : List (ν × ι × List UInt8),
      (entries.map fun entry => (entry.1, entry.2.1)) = members ∧
      (∀ entry ∈ entries, Spelled entry.2.1 entry.2.2) ∧
      MembersOf Named (·.2 = ·) first entries bytes := by
  induction h with
  | close space => exact ⟨[], rfl, nofun, .close space⟩
  | @more _ name value _ _ _ _ _ text _ lead named before after spelled _ ih =>
    obtain ⟨entries, same, each, others⟩ := ih
    exact ⟨(name, value, text) :: entries, congrArg _ same,
      List.forall_mem_cons.mpr ⟨spelled, each⟩, .more lead named before after rfl others⟩

theorem MembersOf.exists_letters {Named : ν → List UInt8 → Prop} {Spelled : ι → List UInt8 → Prop}
    {first : Bool} {members : List (ν × ι)} (h : MembersOf Named Spelled first members bytes) :
    ∃ entries : List (List UInt8 × List UInt8),
      (∀ entry ∈ entries, ∃ member ∈ members, Named member.1 entry.1 ∧ Spelled member.2 entry.2) ∧
      MembersOf (· = ·) (· = ·) first entries bytes := by
  induction h with
  | close space => exact ⟨[], nofun, .close space⟩
  | @more _ _ _ _ _ letters _ _ text _ lead named before after spelled _ ih =>
    obtain ⟨entries, each, others⟩ := ih
    refine ⟨(letters, text) :: entries, List.forall_mem_cons.mpr ⟨?_, fun entry among => ?_⟩,
      .more lead rfl before after rfl others⟩
    · exact ⟨_, List.mem_cons_self, named, spelled⟩
    · obtain ⟨member, among, both⟩ := each entry among
      exact ⟨member, List.mem_cons_of_mem _ among, both⟩

end Texts

theorem MembersOf.getLast?_eq {Named : ν → List UInt8 → Prop} {Spelled : ι → List UInt8 → Prop}
    {first : Bool} {members : List (ν × ι)} {bytes : List UInt8}
    (h : MembersOf Named Spelled first members bytes) : bytes.getLast? = some 0x7D := by
  induction h with
  | close space => exact List.getLast?_concat
  | more lead named before after spelled _ ih => simp [List.getLast?_append, List.getLast?_cons, ih]

theorem endsNumeral_space_append {space : List UInt8} (h : Space space) {rest : List UInt8}
    (ends : EndsNumeral rest) : EndsNumeral (space ++ rest) := by
  cases space with
  | nil => exact ends
  | cons b space =>
    apply endsNumeral_cons
    have first : isSpace b = true := h b (by simp)
    simp only [isSpace, Bool.or_eq_true, beq_iff_eq] at first
    rcases first with ((rfl | rfl) | rfl) | rfl <;> decide

theorem endsNumeral_lead_append {lead : List UInt8} (h : Lead false lead) (rest : List UInt8) :
    EndsNumeral (lead ++ rest) := by
  cases h with
  | comma before _ =>
    rw [List.append_assoc]
    exact endsNumeral_space_append before (endsNumeral_cons _ (by decide))

section Ends

variable {Named : ν → List UInt8 → Prop} {Spelled : ι → List UInt8 → Prop}

/-- What follows an item does not go on a numeral. -/
theorem ItemsOf.endsNumeral {items : List ι} {bytes : List UInt8}
    (h : ItemsOf Spelled false items bytes) (rest : List UInt8) : EndsNumeral (bytes ++ rest) := by
  cases h with
  | close space =>
    rw [List.append_assoc]
    exact endsNumeral_space_append space (endsNumeral_cons _ (by decide))
  | more lead _ _ =>
    rw [List.append_assoc]
    exact endsNumeral_lead_append lead _

theorem MembersOf.endsNumeral {members : List (ν × ι)} {bytes : List UInt8}
    (h : MembersOf Named Spelled false members bytes) (rest : List UInt8) :
    EndsNumeral (bytes ++ rest) := by
  cases h with
  | close space =>
    rw [List.append_assoc]
    exact endsNumeral_space_append space (endsNumeral_cons _ (by decide))
  | more lead _ _ _ _ _ =>
    rw [List.append_assoc]
    exact endsNumeral_lead_append lead _

end Ends

/-! ### Reading -/

/-- An item starts with a byte that is no white space and closes no array. -/
def Starts (text : List UInt8) : Prop :=
  ∃ b more, text = b :: more ∧ isSpace b = false ∧ b ≠ 0x5D

theorem not_isSpace_of_isDigit {b : UInt8} (h : isDigit b = true) :
    isSpace b = false ∧ b ≠ 0x5D := by
  simp only [isDigit, Bool.and_eq_true, decide_eq_true_eq, UInt8.le_iff_toNat_le,
    UInt8.reduceToNat] at h
  simp only [isSpace, Bool.or_eq_false_iff, beq_eq_false_iff_ne, ne_eq, ← UInt8.toNat_inj,
    UInt8.reduceToNat]
  omega

section Reading

variable {rest : List UInt8}

theorem agrees_readItemsOf {α : Type} {item : Reader α} {Spelled : ι → List UInt8 → Prop}
    (expected : ι → Except Cause α) {items : List ι}
    (starts : ∀ x ∈ items, ∀ {text : List UInt8}, Spelled x text → Starts text)
    (each : ∀ x ∈ items, ∀ {text rest : List UInt8}, Spelled x text → EndsNumeral rest →
      Agrees (item (text ++ rest)) (expected x) rest)
    {first : Bool} {bytes : List UInt8} (h : ItemsOf Spelled first items bytes) (taken : List α)
    {bound : Nat} (le : (bytes ++ rest).length ≤ bound) :
    Agrees (readItems item first taken (bytes ++ rest) le)
      ((items.mapM expected).map (taken.reverse ++ ·)) rest := by
  induction items generalizing first bytes taken with
  | nil =>
    cases h with
    | @close _ space spaces =>
      obtain ⟨shorter, closed⟩ := nextItem_close spaces first rest
      simp only [List.append_assoc, List.singleton_append] at le ⊢
      rw [readItems]
      simp only [closed]
      exact ⟨Nat.lt_of_lt_of_le shorter le, by simp⟩
  | cons x items ih =>
    cases h with
    | @more _ _ _ lead text others leads spelled spelledOthers =>
      obtain ⟨b, more, rfl, token, notEnd⟩ := starts x List.mem_cons_self spelled
      obtain ⟨le', found⟩ := nextItem_more leads token notEnd (more ++ (others ++ rest))
      have read := each x List.mem_cons_self spelled (spelledOthers.endsNumeral rest)
      simp only [List.append_assoc, List.cons_append] at le found read ⊢
      rw [readItems]
      simp only [found]
      cases outcome : expected x with
      | error cause =>
        rw [outcome] at read
        obtain ⟨stop, failed, same⟩ := read
        simp only [failed, List.mapM_cons, outcome]
        exact ⟨stop, rfl, same⟩
      | ok value =>
        rw [outcome] at read
        obtain ⟨shorter, readValue⟩ := read
        have others := ih (fun other member => starts other (List.mem_cons_of_mem _ member))
          (fun other member => each other (List.mem_cons_of_mem _ member))
          spelledOthers (value :: taken)
          (Nat.le_trans (Nat.le_of_lt shorter) (Nat.le_trans le' le))
        simp only [readValue, List.mapM_cons, outcome]
        cases remaining : items.mapM expected with
        | error cause =>
          rw [remaining] at others
          exact others
        | ok values =>
          have order : (value :: taken).reverse ++ values = taken.reverse ++ value :: values := by
            simp
          rw [remaining] at others
          change Agrees _ (.ok (taken.reverse ++ value :: values)) rest
          rw [← order]
          exact others

/-- What a member adds to what those before it have come to: its name is read first. -/
def addMember {σ : Type} (nameOf : ν → Except Cause String)
    (next : σ → String → ι → Except Cause σ) (state : σ) (entry : ν × ι) : Except Cause σ := do
  let name ← nameOf entry.1
  next state name entry.2

theorem agrees_readMembersOf {σ : Type} {member : String → σ → Reader σ}
    {Named : ν → List UInt8 → Prop} {Spelled : ι → List UInt8 → Prop}
    {nameOf : ν → Except Cause String} {next : σ → String → ι → Except Cause σ}
    {members : List (ν × ι)}
    (names : ∀ entry ∈ members, ∀ {letters : List UInt8}, Named entry.1 letters →
      ∀ rest, Agrees (stringRest (letters ++ 0x22 :: rest)) (nameOf entry.1) rest)
    (each : ∀ entry ∈ members, ∀ (name : String) (state : σ) {before after text rest : List UInt8},
      nameOf entry.1 = .ok name → Space before → Space after → Spelled entry.2 text →
      EndsNumeral rest → Agrees (member name state (before ++ 0x3A :: (after ++ (text ++ rest))))
        (next state name entry.2) rest)
    {first : Bool} {bytes : List UInt8} (h : MembersOf Named Spelled first members bytes)
    (state : σ) {bound : Nat} (le : (bytes ++ rest).length ≤ bound) :
    Agrees (readMembers member first state (bytes ++ rest) le)
      (members.foldlM (addMember nameOf next) state) rest := by
  induction members generalizing first bytes state with
  | nil =>
    cases h with
    | close spaces =>
      obtain ⟨shorter, closed⟩ := nextName_close spaces first rest
      simp only [List.append_assoc, List.singleton_append] at le ⊢
      rw [readMembers]
      simp only [closed]
      exact ⟨Nat.lt_of_lt_of_le shorter le, rfl⟩
  | cons entry members ih =>
    cases h with
    | @more _ key value _ lead letters before after text others leads named spaceBefore spaceAfter
        spelled spelledOthers =>
      obtain ⟨le', found⟩ := nextName_more leads
        (letters ++ 0x22 :: (before ++ 0x3A :: (after ++ (text ++ (others ++ rest)))))
      have readName := names (key, value) List.mem_cons_self named
        (before ++ 0x3A :: (after ++ (text ++ (others ++ rest))))
      simp only [List.append_assoc, List.cons_append] at le ⊢
      rw [readMembers]
      simp only [found]
      cases outcome : nameOf key with
      | error cause =>
        rw [outcome] at readName
        obtain ⟨stop, failed, same⟩ := readName
        simp only [failed, List.foldlM_cons, addMember, outcome]
        exact ⟨stop, rfl, same⟩
      | ok name =>
        rw [outcome] at readName
        obtain ⟨shorter, readName⟩ := readName
        have read := each (key, value) List.mem_cons_self name state outcome spaceBefore spaceAfter
          spelled (spelledOthers.endsNumeral rest)
        have added : addMember nameOf next state (key, value) = next state name value := by
          rw [addMember, outcome]
          rfl
        simp only [readName, List.foldlM_cons, added]
        cases outcome' : next state name value with
        | error cause =>
          rw [outcome'] at read
          obtain ⟨stop, failed, same⟩ := read
          simp only [failed]
          exact ⟨stop, rfl, same⟩
        | ok state' =>
          rw [outcome'] at read
          obtain ⟨shorter', readValue⟩ := read
          have others := ih (fun other member => names other (List.mem_cons_of_mem _ member))
            (fun other member => each other (List.mem_cons_of_mem _ member)) spelledOthers state'
            (Nat.le_trans (Nat.le_of_lt shorter') (Nat.le_trans (Nat.le_of_lt shorter)
              (Nat.le_trans le' le)))
          simp only [readValue]
          exact others

end Reading

end NaturalKey.Json
