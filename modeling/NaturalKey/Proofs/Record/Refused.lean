import NaturalKey.Proofs.Json.Settled.Expect
import NaturalKey.Proofs.Json.Taken
import NaturalKey.Proofs.Json.Text
import NaturalKey.Proofs.Record.Shapes
import NaturalKey.Proofs.Store.Run

/-!
Objects that are no records. Whatever the order of its members and whatever their values are, an
object is refused that has a known member twice or that lacks one of those which may not be left
out.
-/

set_option autoImplicit false

namespace NaturalKey.Record

open Json (Agrees Cause EndsNumeral LettersText MembersOf ObjectWith Reader SettledBy Space
  SpellsName Step Stop ValueText)

/-! ### What a value comes to -/

theorem cause_refusalInObject (cause : Cause) (rest : List UInt8) :
    (refusalInObject cause rest).cause = cause := by
  rw [refusalInObject]
  split
  · rfl
  · split
    · rfl
    · rfl

theorem settledBy_readTag (kind : Tag.Kind) {refusal : Cause → List UInt8 → Stop}
    (same : ∀ cause rest, (refusal cause rest).cause = cause) {text : List UInt8}
    (h : ValueText text) : SettledBy (readTag kind refusal) text := by
  obtain ⟨expected, read⟩ := h.settledBy_readString
  cases expected with
  | error cause =>
    refine ⟨.error cause, fun spaces ends => ?_⟩
    obtain ⟨stop, failed, same⟩ := read spaces ends
    simp only [readTag, failed]
    exact ⟨stop, rfl, same⟩
  | ok text =>
    cases made : (Tag.ofText text : Except Fault (Tag kind)) with
    | error fault =>
      refine ⟨.error (.refused fault.text), fun spaces ends => ?_⟩
      obtain ⟨shorter, taken⟩ := read spaces ends
      simp only [readTag, taken, made]
      exact ⟨_, rfl, same _ _⟩
    | ok tag =>
      refine ⟨.ok tag, fun spaces ends => ?_⟩
      obtain ⟨shorter, taken⟩ := read spaces ends
      simp only [readTag, taken, made]
      exact ⟨shorter, rfl⟩

/-- What a value of this name does to a draft, if it is taken: a known member is there then, and was
not there before. -/
def Adopts (name : String) (adopt : Draft → Except Cause Draft) : Prop :=
  ∀ {draft next : Draft}, adopt draft = .ok next →
    match Member.ofName? name with
    | some member => draft.has member = false ∧
        ∀ other, next.has other = true ↔ draft.has other = true ∨ other = member
    | none => next = draft

def SettledMember (name : String) (text : List UInt8) : Prop :=
  ∃ adopt, Adopts name adopt ∧ ∀ draft {before after rest : List UInt8}, Space before →
    Space after → EndsNumeral rest →
    Agrees (readMember name draft (before ++ 0x3A :: (after ++ (text ++ rest)))) (adopt draft) rest

theorem settledMember_known {α : Type} {reader : Reader α} {name : String} {member : Member}
    (known : Member.ofName? name = some member) (set : Draft → α → Draft)
    (has : ∀ draft value other, (set draft value).has other = true ↔
      draft.has other = true ∨ other = member)
    (reads : ∀ draft bytes, draft.has member = false → readMember name draft bytes =
      (Json.afterColon reader bytes).map (Step.map (set draft)))
    {text : List UInt8} (settled : SettledBy reader text) : SettledMember name text := by
  obtain ⟨expected, read⟩ := settled
  refine ⟨fun draft => if draft.has member then .error (.repeatedMember member.name)
    else expected.map (set draft), ?_, ?_⟩
  · intro draft next taken
    simp only [known]
    cases there : draft.has member with
    | true => simp [there] at taken
    | false =>
      cases expected with
      | error cause => simp [there, Except.map] at taken
      | ok value =>
        simp only [there, Bool.false_eq_true, if_false, Except.map, Except.ok.injEq] at taken
        subst taken
        exact ⟨rfl, has draft value⟩
  · intro draft before after rest spaceBefore spaceAfter ends
    cases there : draft.has member with
    | true =>
      simp only [readMember, known, there, if_true]
      exact ⟨_, rfl, cause_refusalInObject _ _⟩
    | false =>
      change Agrees _ (if draft.has member then _ else _) rest
      rw [reads draft _ there, there]
      exact (Json.agrees_afterColon spaceBefore (read spaceAfter ends)).map (set draft)

theorem settledMember (name : String) {text : List UInt8} (h : ValueText text) :
    SettledMember name text := by
  cases known : Member.ofName? name with
  | none =>
    refine ⟨.ok, ?_, ?_⟩
    · rintro draft next ⟨⟩
      simp only [known]
    · intro draft before after rest spaceBefore spaceAfter ends
      have skipped := h.skips spaceAfter ends
      simp only [readMember, known]
      exact (Json.agrees_afterColon spaceBefore skipped.agrees).map fun _ => draft
  | some member =>
    cases member with
    | tenant =>
      refine settledMember_known known (fun draft tag => { draft with tenant? := some tag }) ?_ ?_
        (settledBy_readTag .tenant cause_refusalInObject h)
      · rintro draft tag (_ | _ | _ | _ | _) <;> simp [Draft.has]
      · intro draft bytes missing
        simp only [readMember, known, missing, Bool.false_eq_true, if_false]
    | recordType =>
      refine settledMember_known known
        (fun draft tag => { draft with recordType? := some tag }) ?_ ?_
        (settledBy_readTag .recordType cause_refusalInObject h)
      · rintro draft tag (_ | _ | _ | _ | _) <;> simp [Draft.has]
      · intro draft bytes missing
        simp only [readMember, known, missing, Bool.false_eq_true, if_false]
    | keyField =>
      refine settledMember_known known
        (fun draft text => { draft with keyField? := some text }) ?_ ?_
        h.settledBy_readString
      · rintro draft text (_ | _ | _ | _ | _) <;> simp [Draft.has]
      · intro draft bytes missing
        simp only [readMember, known, missing, Bool.false_eq_true, if_false]
    | id =>
      refine settledMember_known known (fun draft tag => { draft with id? := some tag }) ?_ ?_
        (settledBy_readTag .id cause_refusalInObject h)
      · rintro draft tag (_ | _ | _ | _ | _) <;> simp [Draft.has]
      · intro draft bytes missing
        simp only [readMember, known, missing, Bool.false_eq_true, if_false]
    | attributes =>
      refine settledMember_known known
        (fun draft object => { draft with attributes? := some object }) ?_ ?_
        (h.settledBy_readObject attributeBudget)
      · rintro draft object (_ | _ | _ | _ | _) <;> simp [Draft.has]
      · intro draft bytes missing
        simp only [readMember, known, missing, Bool.false_eq_true, if_false]

/-! ### What the members come to -/

section Members

variable {nameOf : List UInt8 → Except Cause String}
  {adopt : String → List UInt8 → Draft → Except Cause Draft}

def knownMembers (nameOf : List UInt8 → Except Cause String)
    (members : List (List UInt8 × List UInt8)) : List Member :=
  members.filterMap fun entry => (nameOf entry.1).toOption.bind Member.ofName?

theorem knownMembers_of_foldlM {members : List (List UInt8 × List UInt8)}
    (adopts : ∀ entry ∈ members, ∀ name, Adopts name (adopt name entry.2)) {state draft : Draft}
    (h : members.foldlM
      (Json.addMember nameOf fun draft name text => adopt name text draft) state = .ok draft) :
    (knownMembers nameOf members).Nodup ∧
      (∀ member ∈ knownMembers nameOf members, state.has member = false) ∧
      ∀ member, draft.has member = true ↔
        state.has member = true ∨ member ∈ knownMembers nameOf members := by
  induction members generalizing state with
  | nil =>
    cases h
    simp [knownMembers]
  | cons entry members ih =>
    rw [List.foldlM_cons, bind_eq_ok] at h
    obtain ⟨next, added, h⟩ := h
    obtain ⟨name, named, adopted⟩ := bind_eq_ok.mp added
    obtain ⟨once, fresh, has⟩ :=
      ih (fun other among => adopts other (List.mem_cons_of_mem _ among)) h
    have first := adopts entry List.mem_cons_self name adopted
    have read : (nameOf entry.1).toOption.bind Member.ofName? = Member.ofName? name := by
      rw [named]
      rfl
    simp only [knownMembers, List.filterMap_cons, read] at once fresh has ⊢
    cases known : Member.ofName? name with
    | none =>
      simp only [known] at first
      subst first
      exact ⟨once, fresh, has⟩
    | some member =>
      simp only [known] at first
      obtain ⟨missing, more⟩ := first
      have notAgain : member ∉ members.filterMap fun entry =>
          (nameOf entry.1).toOption.bind Member.ofName? := by
        intro again
        have there : next.has member = true := (more member).mpr (.inr rfl)
        rw [fresh member again] at there
        cases there
      refine ⟨List.nodup_cons.mpr ⟨notAgain, once⟩, ?_, ?_⟩
      · rintro other (_ | ⟨_, later⟩)
        · exact missing
        · have notYet := fresh other later
          cases before : state.has other with
          | false => rfl
          | true =>
            rw [(more other).mpr (.inl before)] at notYet
            cases notYet
      · intro other
        rw [has, more, List.mem_cons, or_assoc]

theorem mem_knownMembers {members : List (List UInt8 × List UInt8)} {member : Member} :
    member ∈ knownMembers nameOf members ↔ ∃ entry ∈ members, nameOf entry.1 = .ok member.name := by
  have same (outcome : Except Cause String) :
      outcome.toOption.bind Member.ofName? = some member ↔ outcome = .ok member.name := by
    cases outcome with
    | error cause => simp [Except.toOption]
    | ok name => simp [Except.toOption, Member.ofName?_eq_some_iff]
  simp only [knownMembers, List.mem_filterMap, same]

end Members

/-! ### Documents -/

/-- Two of the members have this name, however it is spelled. -/
def Member.RepeatedIn (member : Member) (members : List (List UInt8 × List UInt8)) : Prop :=
  ∃ one other, [one, other].Sublist members ∧ SpellsName member.name one.1 ∧
    SpellsName member.name other.1

def Member.MissingFrom (member : Member) (members : List (List UInt8 × List UInt8)) : Prop :=
  ∀ entry ∈ members, ¬SpellsName member.name entry.1

theorem Draft.has_of_record {draft : Draft} {record : Record} (h : draft.record = .ok record)
    {member : Member} (required : member ∈ Member.required) : draft.has member = true := by
  unfold Draft.record at h
  split at h
  all_goals cases h
  cases member with
  | attributes => exact absurd required (by decide)
  | _ => simp_all [Draft.has]

section Documents

variable {members : List (List UInt8 × List UInt8)} {before text rest : List UInt8}

/-- What names and values come to, wherever they stand: the names as texts, and the values as what
they do to a draft. -/
structure Meaning (nameOf : List UInt8 → Except Cause String)
    (adopt : String → List UInt8 → Draft → Except Cause Draft) : Prop where
  name : ∀ letters, LettersText letters → ∀ rest,
    Agrees (Json.stringRest (letters ++ 0x22 :: rest)) (nameOf letters) rest
  adopts : ∀ name text, ValueText text → Adopts name (adopt name text)
  member : ∀ name text, ValueText text → ∀ draft {before after rest : List UInt8}, Space before →
    Space after → EndsNumeral rest →
    Agrees (readMember name draft (before ++ 0x3A :: (after ++ (text ++ rest))))
      (adopt name text draft) rest

theorem exists_meaning : ∃ nameOf adopt, Meaning nameOf adopt := by
  have : Nonempty (Draft → Except Cause Draft) := ⟨.ok⟩
  have each : ∀ name text, ValueText text → SettledMember name text :=
    fun name _ value => settledMember name value
  choose! adopt adopts member using each
  obtain ⟨nameOf, readName⟩ := Json.exists_name
  exact ⟨nameOf, adopt, readName, adopts, member⟩

theorem exists_draft_of_parse {nameOf : List UInt8 → Except Cause String}
    {adopt : String → List UInt8 → Draft → Except Cause Draft} (meaning : Meaning nameOf adopt)
    (object : ObjectWith members text) (spaces : Space before) {record : Record}
    (read : parse (before ++ (text ++ rest)) = .ok record) :
    ∃ draft : Draft, draft.record = .ok record ∧
      members.foldlM (Json.addMember nameOf fun draft name text => adopt name text draft)
        Draft.empty = .ok draft := by
  obtain @⟨bytes, names, values, written⟩ := object
  rw [List.cons_append] at read
  obtain ⟨_, -, _, taken⟩ := exists_takes_of_parse read
  have outcome : Agrees
      (Json.readMembers readMember true Draft.empty (bytes ++ rest) (Json.length_le _))
      (members.foldlM (Json.addMember nameOf fun draft name text => adopt name text draft)
        Draft.empty) rest := by
    apply Json.agrees_readMembersOf _ _ written
    · rintro entry among _ rfl
      exact meaning.name entry.1 (names entry among)
    · rintro entry among name draft before after _ rest - spaceBefore spaceAfter rfl ends
      exact meaning.member name entry.2 (values entry among) draft spaceBefore spaceAfter ends
  obtain ⟨le, found⟩ := Json.afterSpace_append spaces (b := 0x7B) (by decide) (bytes ++ rest)
  cases folded : members.foldlM (Json.addMember nameOf fun draft name text => adopt name text draft)
      Draft.empty with
  | error cause =>
    rw [folded] at outcome
    obtain ⟨stop, failed, -⟩ := outcome
    simp [Record.read, found, readMembers, failed, Except.map] at taken
  | ok draft =>
    rw [folded] at outcome
    obtain ⟨shorter, members⟩ := outcome
    refine ⟨draft, ?_, rfl⟩
    cases complete : draft.record with
    | error member =>
      simp [Record.read, found, readMembers, members, complete, Json.fail, Except.map] at taken
    | ok other =>
      simp only [Record.read, found, if_true, readMembers, members, complete, Except.map,
        Step.weaken, Except.ok.injEq, Step.mk.injEq] at taken
      rw [taken.1]

/-- An object is refused that has a known member more than once, or that lacks a required one;
whatever else it has, and whatever follows it. -/
theorem exists_fault_of_refused (object : ObjectWith members text) (spaces : Space before)
    (refused : (∃ member : Member, member.RepeatedIn members) ∨
      ∃ member ∈ Member.required, member.MissingFrom members) (rest : List UInt8) :
    ∃ fault, parse (before ++ (text ++ rest)) = .error fault := by
  cases outcome : parse (before ++ (text ++ rest)) with
  | error fault => exact ⟨fault, rfl⟩
  | ok record =>
    exfalso
    obtain ⟨nameOf, adopt, meaning⟩ := exists_meaning
    obtain ⟨draft, complete, folded⟩ := exists_draft_of_parse meaning object spaces outcome
    obtain ⟨names, values, -⟩ := object
    obtain ⟨once, -, has⟩ := knownMembers_of_foldlM
      (fun entry among name => meaning.adopts name entry.2 (values entry among)) folded
    rcases refused with ⟨member, one, other, both, oneNamed, otherNamed⟩ |
      ⟨member, required, missing⟩
    · have apart := (List.pairwise_filterMap.mp once).sublist both
      have read (entry : List UInt8 × List UInt8) (among : entry ∈ members)
          (named : SpellsName member.name entry.1) : nameOf entry.1 = .ok member.name :=
        ((meaning.name entry.1 (names entry among) []).of_takes (Json.agrees_stringRest named [])).1
      have twice := List.rel_of_pairwise_cons apart List.mem_cons_self member
      rw [read one (both.subset (by simp)) oneNamed, read other (both.subset (by simp)) otherNamed]
        at twice
      exact absurd rfl (twice (member.ofName?_name) member member.ofName?_name)
    · have there := (has member).mp (Draft.has_of_record complete required)
      rcases there with before | known
      · cases member <;> cases before
      obtain ⟨entry, among, named⟩ := mem_knownMembers.mp known
      have taken := meaning.name entry.1 (names entry among) []
      rw [named] at taken
      exact missing entry among (Json.spellsName_of_takes taken)

end Documents

/-- What comes of a document is settled by the members it has: of every shape the record is read,
and no object is read where a member is repeated or missing. -/
theorem parse_by_members :
    (∀ {record : Record} {members : List Member} {document : List UInt8}, record.Complete members →
      ShapeOf record.Writes members document → parse document = .ok record) ∧
    ∀ {members : List (List UInt8 × List UInt8)} {before text : List UInt8},
      ObjectWith members text →
      Space before →
      (∃ member : Member, member.RepeatedIn members) ∨
        (∃ member ∈ Member.required, member.MissingFrom members) →
      ∀ rest, ∃ fault, parse (before ++ (text ++ rest)) = .error fault :=
  ⟨fun complete shape => parse_shapeOf complete shape,
    fun object spaces refused => exists_fault_of_refused object spaces refused⟩

def shuffled : List UInt8 :=
  Utf8.encode ("\x7b\x22x\x22:[1e999,\x22\\ud800\x22], \x22id\x22:\x22n-1\x22,\x22x\x22:null," ++
    "\x22attributes\x22:\x7b\x22a\x22:[],\x22a\x22:2\x7d,\x22key_field\x22:\x22user_id\x22," ++
    "\x22type\x22:\x22User\x22,\x22tenant\x22 :\x22default\x22\x7d\n")

def numbered : Record :=
  (user ⟨"n-1", by decide⟩).withAttribute "a" (.number (.integer 2 (by decide)))

theorem shapeOf_shuffled : ShapeOf numbered.Writes Member.all shuffled := by
  have space : Space [0x20] := by simp [Space, Json.isSpace]
  have named (name : String) : SpellsName name _ := Json.spellsText_escape _
  have spelled (text : String) := Json.Spells.string (Json.spellsText_escape text.toList)
  have whole : Json.WholeText [0x31] := .digits rfl (by decide) (by simp)
  have exponent : Json.ExponentText (0x65 :: ([] ++ [0x39, 0x39, 0x39])) :=
    .some rfl .none ⟨by simp, by simp [Json.isDigit]⟩
  have large := ValueText.number (@Json.NumberText.parts false _ _ _ whole .none exponent)
  have half : ValueText (0x22 :: ([0x5C, 0x75, 0x64, 0x38, 0x30, 0x30] ++ [] ++ [0x22])) :=
    .string (.cons (.number rfl rfl rfl rfl) .nil)
  have items := ValueText.array
    (List.forall_mem_cons.mpr ⟨large, List.forall_mem_singleton.mpr half⟩)
    (.more (.first Json.space_nil) rfl
      (.more (.comma Json.space_nil Json.space_nil) rfl (.close Json.space_nil)))
  have attributes := Json.Spells.object (.more (.first Json.space_nil) (named "a") Json.space_nil
    Json.space_nil (.array (.close Json.space_nil))
    (.more (.comma Json.space_nil Json.space_nil) (named "a") Json.space_nil Json.space_nil
      (.number (@Json.SpellsNumber.integer false 2 _ rfl)) (.close Json.space_nil)))
  have attributes : numbered.Writes .attributes _ := ⟨_, attributes, by decide, rfl⟩
  have member (member : Member) {text : List UInt8} (written : numbered.Writes member text) :
      EntryOf numbered.Writes (member.name, text) := .member written
  have other {text : List UInt8} (value : ValueText text) : EntryOf numbered.Writes ("x", text) :=
    .other (by decide) value
  have each := List.forall_mem_cons.mpr ⟨other items, List.forall_mem_cons.mpr
    ⟨member .id (spelled "n-1"), List.forall_mem_cons.mpr ⟨other .null, List.forall_mem_cons.mpr
    ⟨member .attributes attributes, List.forall_mem_cons.mpr
    ⟨member .keyField (spelled "user_id"), List.forall_mem_cons.mpr
    ⟨member .recordType (spelled "User"),
      List.forall_mem_singleton.mpr (member .tenant (spelled "default"))⟩⟩⟩⟩⟩⟩
  have document := @ShapeOf.object numbered.Writes Member.all _ [] _ [0x0A] (by decide) each
    Json.space_nil
    (.more (.first Json.space_nil) (named _) Json.space_nil Json.space_nil rfl
      (.more (.comma Json.space_nil space) (named _) Json.space_nil Json.space_nil rfl
        (.more (.comma Json.space_nil Json.space_nil) (named _) Json.space_nil Json.space_nil rfl
          (.more (.comma Json.space_nil Json.space_nil) (named _) Json.space_nil Json.space_nil rfl
            (.more (.comma Json.space_nil Json.space_nil) (named _)
              Json.space_nil Json.space_nil rfl
              (.more (.comma Json.space_nil Json.space_nil) (named _)
                Json.space_nil Json.space_nil rfl
                (.more (.comma Json.space_nil Json.space_nil) (named _) space Json.space_nil rfl
                  (.close Json.space_nil))))))))
    (by simp [Space, Json.isSpace])
  exact Eq.subst (motive := ShapeOf numbered.Writes Member.all) (by decide +kernel) document

def listed : List UInt8 :=
  Utf8.encode "[\x22default\x22,\x22User\x22 ,\x22user_id\x22,\x22u-1\x22]"

theorem shapeOf_listed :
    ShapeOf (user ⟨"u-1", by decide⟩).Writes Member.required listed := by
  have space : Space [0x20] := by simp [Space, Json.isSpace]
  have spelled (text : String) := Json.Spells.string (Json.spellsText_escape text.toList)
  have document := @ShapeOf.array (user ⟨"u-1", by decide⟩).Writes Member.required [] _ []
    Json.space_nil
    (.more (.first Json.space_nil) (spelled "default")
      (.more (.comma Json.space_nil Json.space_nil) (spelled "User")
        (.more (.comma space Json.space_nil) (spelled "user_id")
          (.more (.comma Json.space_nil Json.space_nil) (spelled "u-1") (.close Json.space_nil)))))
    Json.space_nil
  exact Eq.subst (motive := ShapeOf _ Member.required) (by decide +kernel) document

def doubled : List UInt8 :=
  Utf8.encode "\x7b\x22id\x22:null,\x22\\u0069d\x22:null\x7d"

theorem objectWith_doubled :
    ∃ members, ObjectWith members doubled ∧ Member.id.RepeatedIn members := by
  have d : Json.LetterText [0x64] := .plain (by decide) (by decide) (by decide)
  have plain : LettersText ([0x69] ++ ([0x64] ++ [])) :=
    .cons (.plain (by decide) (by decide) (by decide)) (.cons d .nil)
  have escaped : LettersText ([0x5C, 0x75, 0x30, 0x30, 0x36, 0x39] ++ ([0x64] ++ [])) :=
    .cons (.number rfl rfl rfl rfl) (.cons d .nil)
  have both {α : Type} {P : α → Prop} {x y : α} (first : P x) (second : P y) : ∀ z ∈ [x, y], P z :=
    List.forall_mem_cons.mpr ⟨first, List.forall_mem_singleton.mpr second⟩
  have object := @ObjectWith.braces [(_, _), (_, _)] _ (both plain escaped) (both .null .null)
    (.more (.first Json.space_nil) rfl Json.space_nil Json.space_nil rfl
      (.more (.comma Json.space_nil Json.space_nil) rfl Json.space_nil Json.space_nil rfl
        (.close Json.space_nil)))
  refine ⟨_, Eq.subst (motive := ObjectWith _) (by decide +kernel) object, _, _, .refl _, ?_, ?_⟩
  · exact Json.spellsText_escape ['i', 'd']
  · have first : Json.SpellsChar 'i' [0x5C, 0x75, 0x30, 0x30, 0x36, 0x39] :=
      .escape (@Json.SpellsEscape.number _ _ _ _ 0x69 rfl rfl rfl)
    have second : Json.SpellsChar 'd' [0x64] := .plain (by decide) (by decide) (by decide)
    exact .cons first (.cons second .nil)

theorem parse_by_members_user :
    (ShapeOf numbered.Writes Member.all shuffled ∧ parse shuffled = .ok numbered) ∧
    (ShapeOf (user ⟨"u-1", by decide⟩).Writes Member.required listed ∧
      parse listed = .ok (user ⟨"u-1", by decide⟩)) ∧
    (∃ members, ObjectWith members doubled ∧ Member.id.RepeatedIn members) ∧
      ∃ fault, parse doubled = .error fault := by
  obtain ⟨members, object, twice⟩ := objectWith_doubled
  refine ⟨⟨shapeOf_shuffled, parse_by_members.1 (.inl rfl) shapeOf_shuffled⟩,
    ⟨shapeOf_listed, parse_by_members.1 (.inr ⟨rfl, rfl⟩) shapeOf_listed⟩,
    ⟨members, object, twice⟩, ?_⟩
  have refused := parse_by_members.2 object Json.space_nil (.inl ⟨.id, twice⟩) []
  rwa [List.append_nil, List.nil_append] at refused

end NaturalKey.Record
