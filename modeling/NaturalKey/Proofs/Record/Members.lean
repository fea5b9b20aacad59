import NaturalKey.Proofs.Outcome
import NaturalKey.Proofs.Record.Reading

/-!
Records whose members stand in any order. As each member is there once, none is refused for being
repeated and none is missing; so it is for the attributes alone to decide whether there is a record.
-/

set_option autoImplicit false

namespace NaturalKey.Record

open Json (Agrees Cause MembersOf Space SpellsName)

def Member.required : List Member :=
  [.tenant, .recordType, .keyField, .id]

/-- The documents of one object that has every member once, and nothing else. -/
inductive DocumentOf (Writes : Member → List UInt8 → Prop) : List UInt8 → Prop
  | members {order : List Member} {before bytes after : List UInt8} : order.Perm Member.all →
      Space before →
      MembersOf (fun member letters => SpellsName member.name letters) Writes true
        (order.map fun member => (member, member)) bytes →
      Space after → DocumentOf Writes (before ++ (0x7B :: (bytes ++ after)))

theorem DocumentOf.imp {Writes Others : Member → List UInt8 → Prop} {document : List UInt8}
    (h : DocumentOf Writes document) (weaker : ∀ member text, Writes member text →
      Others member text) : DocumentOf Others document := by
  cases h with
  | members perm before written after =>
    exact .members perm before (written.imp (fun _ _ named => named) fun _ _ => weaker _) after

namespace Parts

variable {parts : Parts}

/-- What members come to together, whatever their order. -/
def draft (parts : Parts) (members : List Member) : Draft where
  tenant? := if .tenant ∈ members then some parts.tenant else none
  recordType? := if .recordType ∈ members then some parts.recordType else none
  keyField? := if .keyField ∈ members then some parts.keyField else none
  id? := if .id ∈ members then some parts.id else none
  attributes? := if .attributes ∈ members then parts.attributes.toOption else none

def record (parts : Parts) : Except Cause Record :=
  parts.attributes.map fun object =>
    ⟨parts.tenant, parts.recordType, parts.keyField, parts.id, object⟩

theorem adoptOnce_draft {members : List Member} {member : Member} (other : member ∉ members) :
    parts.adoptOnce (parts.draft members) member =
      if member = .attributes then parts.attributes.map fun _ => parts.draft (member :: members)
      else .ok (parts.draft (member :: members)) := by
  cases member with
  | attributes =>
    cases outcome : parts.attributes with
    | error cause => simp [adoptOnce, draft, Draft.has, adopt, other, outcome, Except.map]
    | ok object =>
      simp [adoptOnce, draft, Draft.has, adopt, other, outcome, Except.map, Except.toOption]
  | _ => simp [adoptOnce, draft, Draft.has, adopt, other]

theorem foldlM_adoptOnce {order members : List Member} (once : order.Nodup)
    (others : ∀ member ∈ order, member ∉ members) :
    order.foldlM parts.adoptOnce (parts.draft members) =
      if .attributes ∈ order then
        parts.attributes.map fun _ => parts.draft (order.reverse ++ members)
      else .ok (parts.draft (order.reverse ++ members)) := by
  induction order generalizing members with
  | nil => rfl
  | cons member order ih =>
    obtain ⟨notAgain, once⟩ := List.nodup_cons.mp once
    have othersNext : ∀ next ∈ order, next ∉ member :: members := by
      rintro next among (_ | ⟨_, before⟩)
      · exact notAgain among
      · exact others next (List.mem_cons_of_mem _ among) before
    have rest := ih once othersNext
    rw [List.foldlM_cons, adoptOnce_draft (others member List.mem_cons_self), List.reverse_cons,
      List.append_assoc, List.singleton_append]
    by_cases last : member = .attributes
    · subst last
      rw [if_neg notAgain] at rest
      rw [if_pos rfl, if_pos List.mem_cons_self]
      cases parts.attributes with
      | error cause => rfl
      | ok object => exact rest
    · have same : .attributes ∈ member :: order ↔ .attributes ∈ order := by
        simp [Ne.symm last]
      rw [if_neg last]
      simp only [same]
      exact rest

/-- What the members come to that are there. Without attributes they are empty. -/
def recordOf (parts : Parts) (members : List Member) : Except Cause Record :=
  if .attributes ∈ members then parts.record
  else .ok ⟨parts.tenant, parts.recordType, parts.keyField, parts.id, .empty⟩

theorem record_draft {members : List Member}
    (required : ∀ member ∈ Member.required, member ∈ members) :
    (parts.draft members).record = .ok ⟨parts.tenant, parts.recordType, parts.keyField, parts.id,
      (parts.draft members).attributes?.getD .empty⟩ := by
  have tenant := required .tenant (by decide)
  have recordType := required .recordType (by decide)
  have keyField := required .keyField (by decide)
  have id := required .id (by decide)
  simp only [Draft.record, draft, tenant, recordType, keyField, id, if_true]

theorem agrees_read_of_foldlM {order : List Member} (once : order.Nodup)
    (required : ∀ member ∈ Member.required, member ∈ order) {before bytes after : List UInt8}
    (spaceBefore : Space before)
    (outcome : Agrees
      (Json.readMembers readMember true Draft.empty (bytes ++ after) (Json.length_le _))
      (order.foldlM parts.adoptOnce Draft.empty) after) :
    Agrees (read (before ++ 0x7B :: (bytes ++ after))) (parts.recordOf order) after := by
  obtain ⟨le, found⟩ := Json.afterSpace_append spaceBefore (b := 0x7B) (by decide) (bytes ++ after)
  have folded : order.foldlM parts.adoptOnce (parts.draft []) = _ :=
    foldlM_adoptOnce once fun _ _ => List.not_mem_nil
  have complete : (parts.draft order.reverse).record = _ :=
    record_draft fun member among => List.mem_reverse.mpr (required member among)
  change Agrees _ (order.foldlM parts.adoptOnce (parts.draft [])) after at outcome
  rw [folded, List.append_nil] at outcome
  simp only [Record.read, found, if_true]
  apply Agrees.weaken
  simp only [readMembers, recordOf, record]
  by_cases there : .attributes ∈ order
  · rw [if_pos there] at outcome ⊢
    cases read : parts.attributes with
    | error cause =>
      rw [read] at outcome
      obtain ⟨stop, failed, same⟩ := outcome
      simp only [failed]
      exact ⟨stop, rfl, same⟩
    | ok object =>
      rw [read] at outcome
      obtain ⟨shorter, taken⟩ := outcome
      simp only [taken, complete]
      simp only [draft, List.mem_reverse, there, if_true, read]
      exact ⟨shorter, rfl⟩
  · rw [if_neg there] at outcome ⊢
    obtain ⟨shorter, taken⟩ := outcome
    simp only [taken, complete]
    simp only [draft, List.mem_reverse, there, if_false]
    exact ⟨shorter, rfl⟩

/-- A record is read from its members in any order, if its attributes are read. -/
theorem agrees_read {document : List UInt8} (h : DocumentOf parts.Writes document) :
    ∃ after, Space after ∧ Agrees (read document) parts.record after := by
  cases h with
  | @members order before bytes after perm spaceBefore written spaceAfter =>
    refine ⟨after, spaceAfter, ?_⟩
    have outcome : Agrees
        (Json.readMembers readMember true Draft.empty (bytes ++ after) (Json.length_le _))
        ((order.map fun member => (member, member)).foldlM
          (Json.addMember (fun member => .ok member.name) fun draft _ member =>
            parts.adoptOnce draft member) Draft.empty) after := by
      apply Json.agrees_readMembersOf _ _ written
      · exact fun _ _ _ named rest => Json.agrees_stringRest named rest
      · rintro entry among name draft before after text rest named spaceBefore spaceAfter h -
        obtain ⟨member, -, rfl⟩ := List.mem_map.mp among
        cases named
        exact parts.agrees_readMember draft member spaceBefore spaceAfter h rest
    rw [List.foldlM_map] at outcome
    have among (member : Member) : member ∈ order := by
      apply perm.mem_iff.mpr
      cases member <;> decide
    have read := parts.agrees_read_of_foldlM (perm.nodup_iff.mpr (by decide))
      (fun member _ => among member) spaceBefore outcome
    rwa [recordOf, if_pos (among .attributes)] at read

theorem parse_eq_ok_iff {document : List UInt8} (h : DocumentOf parts.Writes document)
    {record : Record} : parse document = .ok record ↔ parts.record = .ok record := by
  obtain ⟨after, blank, outcome⟩ := agrees_read h
  cases made : parts.record with
  | error cause =>
    rw [made] at outcome
    obtain ⟨stop, failed, -⟩ := outcome
    simp only [parse, Json.Reader.readAll, failed, reduceCtorEq]
  | ok other =>
    rw [made] at outcome
    simp only [parse, Json.Reader.readAll_of_takes outcome blank, Except.ok.injEq]

end Parts

end NaturalKey.Record
