import NaturalKey.Proofs.Json.Reading
import NaturalKey.Proofs.Json.Skipping
import NaturalKey.Proofs.Outcome

/-!
What stands between brackets can be taken apart in one way only, as there is one reader that finds
the texts of all items and members. So two readings of the same bytes are readings of the same
texts.
-/

set_option autoImplicit false

namespace NaturalKey.Json

def readText : Reader (List UInt8) := fun bytes =>
  match skipValue bytes with
  | .error stop => .error stop
  | .ok step =>
    let text := skipSpace bytes
    .ok ⟨text.take (text.length - step.rest.length), step.rest, step.shorter⟩

theorem ValueText.takes_readText {text space rest : List UInt8} (h : ValueText text)
    (spaces : Space space) (ends : EndsNumeral rest) :
    Takes (readText (space ++ (text ++ rest))) text rest := by
  obtain ⟨shorter, skipped⟩ := h.skips spaces ends
  obtain ⟨b, more, rfl, token, -⟩ := h.starts
  have found : skipSpace (space ++ (b :: more ++ rest)) = b :: more ++ rest := by
    rw [skipSpace_append spaces, List.cons_append, skipSpace_cons token]
  have length : (b :: more ++ rest).length - rest.length = (b :: more).length := by
    rw [List.length_append, Nat.add_sub_cancel]
  simp only [readText, skipped, found, length, List.take_left]
  exact ⟨shorter, rfl⟩

theorem Takes.unique {n : Nat} {α : Type} {outcome : Except Stop (Step n α)} {value other : α}
    {rest left : List UInt8} (h : Takes outcome value rest) (h' : Takes outcome other left) :
    value = other := by
  obtain ⟨_, rfl⟩ := h
  obtain ⟨_, same⟩ := h'
  cases same
  rfl

section Items

variable {ι κ : Type} {bytes : List UInt8}

theorem ItemsOf.takes_texts {items : List (ι × List UInt8)} (h : ItemsOf (·.2 = ·) true items bytes)
    (values : ∀ item ∈ items, ValueText item.2) :
    Takes (readItems readText true [] (bytes ++ []) (length_le _)) (items.map Prod.snd) [] := by
  have texts : items.mapM (fun item => (.ok item.2 : Except Cause (List UInt8))) =
      .ok (items.map Prod.snd) := mapM_ok_of_forall fun _ _ => rfl
  have read : Agrees (readItems readText true [] (bytes ++ []) (length_le _))
      ((items.mapM fun item => (.ok item.2 : Except Cause (List UInt8))).map ([].reverse ++ ·))
        [] := by
    apply agrees_readItemsOf _ _ _ h
    · rintro item among _ rfl
      exact (values item among).starts
    · rintro item among _ rest rfl ends
      exact (values item among).takes_readText space_nil ends
  rwa [texts] at read

theorem ItemsOf.exists_same {Spelled : ι → List UInt8 → Prop} {Spelled' : κ → List UInt8 → Prop}
    {items : List ι} {others : List κ} (h : ItemsOf Spelled true items bytes)
    (h' : ItemsOf Spelled' true others bytes)
    (values : ∀ item ∈ items, ∀ text, Spelled item text → ValueText text)
    (values' : ∀ other ∈ others, ∀ text, Spelled' other text → ValueText text) :
    ∀ item ∈ items, ∃ text, Spelled item text ∧ ∃ other ∈ others, Spelled' other text := by
  obtain ⟨pairs, rfl, each, written⟩ := h.exists_texts
  obtain ⟨pairs', rfl, each', written'⟩ := h'.exists_texts
  have texts : pairs.map Prod.snd = pairs'.map Prod.snd :=
    (written.takes_texts fun pair among =>
        values _ (List.mem_map_of_mem among) _ (each pair among)).unique
      (written'.takes_texts fun pair among =>
        values' _ (List.mem_map_of_mem among) _ (each' pair among))
  intro item listed
  obtain ⟨pair, among, rfl⟩ := List.mem_map.mp listed
  have text : pair.2 ∈ pairs'.map Prod.snd := texts ▸ List.mem_map_of_mem among
  obtain ⟨pair', among', same⟩ := List.mem_map.mp text
  exact ⟨pair.2, each pair among, pair'.1, List.mem_map_of_mem among', same ▸ each' pair' among'⟩

end Items

section Members

variable {ι κ : Type} {bytes : List UInt8}

def readEntry (name : String) (entries : List (String × List UInt8)) :
    Reader (List (String × List UInt8)) := fun bytes =>
  (afterColon readText bytes).map (Step.map fun text => entries ++ [(name, text)])

theorem foldlM_addEntry (members : List (String × ι × List UInt8))
    (entries : List (String × List UInt8)) :
    members.foldlM (addMember .ok fun entries name (value : ι × List UInt8) =>
        (.ok (entries ++ [(name, value.2)]) : Except Cause _)) entries =
      .ok (entries ++ members.map fun member => (member.1, member.2.2)) := by
  induction members generalizing entries with
  | nil => rw [List.map_nil, List.append_nil]; rfl
  | cons member members ih =>
    have added := ih (entries ++ [(member.1, member.2.2)])
    rwa [List.append_assoc] at added

theorem MembersOf.takes_entries {members : List (String × ι × List UInt8)}
    (h : MembersOf SpellsName (·.2 = ·) true members bytes)
    (values : ∀ member ∈ members, ValueText member.2.2) (rest : List UInt8) :
    Takes (readMembers readEntry true [] (bytes ++ rest) (length_le _))
      (members.map fun member => (member.1, member.2.2)) rest := by
  have read : Agrees (readMembers readEntry true [] (bytes ++ rest) (length_le _))
      (members.foldlM (addMember .ok fun entries name (value : ι × List UInt8) =>
        .ok (entries ++ [(name, value.2)])) []) rest := by
    apply agrees_readMembersOf _ _ h
    · exact fun _ _ _ named rest => agrees_stringRest named rest
    · rintro member among name entries before after _ rest - spaceBefore spaceAfter rfl ends
      have value := (values member among).takes_readText spaceAfter ends
      exact (agrees_afterColon spaceBefore value.agrees).map fun text => entries ++ [(name, text)]
  rwa [foldlM_addEntry] at read

/-- Two lists of members that are written as the same bytes are written as the same texts, under the
same names, whatever follows them. -/
theorem MembersOf.exists_same {Spelled : ι → List UInt8 → Prop} {Spelled' : κ → List UInt8 → Prop}
    {members : List (String × ι)} {others : List (String × κ)} {bytes' rest rest' : List UInt8}
    (h : MembersOf SpellsName Spelled true members bytes)
    (h' : MembersOf SpellsName Spelled' true others bytes') (same : bytes ++ rest = bytes' ++ rest')
    (values : ∀ member ∈ members, ∀ text, Spelled member.2 text → ValueText text)
    (values' : ∀ other ∈ others, ∀ text, Spelled' other.2 text → ValueText text) :
    ∀ member ∈ members, ∃ text, Spelled member.2 text ∧
      ∃ other ∈ others, other.1 = member.1 ∧ Spelled' other.2 text := by
  obtain ⟨entries, rfl, each, written⟩ := h.exists_texts
  obtain ⟨entries', rfl, each', written'⟩ := h'.exists_texts
  have texts : (entries.map fun entry => (entry.1, entry.2.2)) =
      entries'.map fun entry => (entry.1, entry.2.2) := by
    have taken := written.takes_entries
      (fun entry among => values _ (List.mem_map_of_mem among) _ (each entry among)) rest
    have taken' := written'.takes_entries
      (fun entry among => values' _ (List.mem_map_of_mem among) _ (each' entry among)) rest'
    generalize bytes ++ rest = whole at same taken
    subst same
    exact taken.unique taken'
  intro member listed
  obtain ⟨entry, among, rfl⟩ := List.mem_map.mp listed
  have text : (entry.1, entry.2.2) ∈ entries'.map fun entry => (entry.1, entry.2.2) :=
    texts ▸ List.mem_map_of_mem among
  obtain ⟨entry', among', same⟩ := List.mem_map.mp text
  obtain ⟨name, same⟩ := Prod.mk.inj same
  exact ⟨entry.2.2, each entry among, _, List.mem_map_of_mem among', name,
    same ▸ each' entry' among'⟩

end Members

end NaturalKey.Json
