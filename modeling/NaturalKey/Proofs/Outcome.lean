import NaturalKey.Fault

/-!
What comes of several things in a row that may fail each.
-/

set_option autoImplicit false

namespace NaturalKey

variable {α β γ δ ε : Type}

theorem bind_eq_ok {x : Except ε α} {f : α → Except ε β} {result : β} :
    x >>= f = .ok result ↔ ∃ value, x = .ok value ∧ f value = .ok result := by
  cases x with
  | error fault => exact ⟨nofun, nofun⟩
  | ok value => exact ⟨fun h => ⟨value, rfl, h⟩, fun ⟨_, same, h⟩ => Except.ok.inj same ▸ h⟩

theorem map_eq_ok {x : Except ε α} {f : α → β} {result : β} :
    x.map f = .ok result ↔ ∃ value, x = .ok value ∧ f value = result := by
  cases x with
  | error fault => exact ⟨nofun, nofun⟩
  | ok value => exact ⟨fun h => ⟨value, rfl, Except.ok.inj h⟩,
      fun ⟨_, same, h⟩ => Except.ok.inj same ▸ congrArg Except.ok h⟩

theorem mapM_error_of_mem {f : α → Except ε β} {P : ε → Prop} {items : List α}
    (failures : ∀ item ∈ items, ∀ fault, f item = .error fault → P fault)
    (h : ∃ item ∈ items, ∃ fault, f item = .error fault) :
    ∃ fault, items.mapM f = .error fault ∧ P fault := by
  induction items with
  | nil => simp at h
  | cons first rest ih =>
    rw [List.mapM_cons]
    cases outcome : f first with
    | error fault => exact ⟨fault, rfl, failures first List.mem_cons_self fault outcome⟩
    | ok value =>
      have later : ∃ item ∈ rest, ∃ fault, f item = .error fault := by
        obtain ⟨item, member, fault, failed⟩ := h
        rcases List.mem_cons.mp member with rfl | member
        · rw [outcome] at failed
          cases failed
        · exact ⟨item, member, fault, failed⟩
      obtain ⟨fault, failed, known⟩ :=
        ih (fun item member => failures item (List.mem_cons_of_mem _ member)) later
      rw [failed]
      exact ⟨fault, rfl, known⟩

theorem exists_error_of_mapM {f : α → Except ε β} {items : List α} {fault : ε}
    (h : items.mapM f = .error fault) : ∃ item ∈ items, f item = .error fault := by
  induction items with
  | nil => cases h
  | cons first rest ih =>
    rw [List.mapM_cons] at h
    cases outcome : f first with
    | error other =>
      rw [outcome] at h
      cases h
      exact ⟨first, List.mem_cons_self, outcome⟩
    | ok value =>
      rw [outcome] at h
      cases others : rest.mapM f with
      | error other =>
        rw [others] at h
        cases h
        obtain ⟨item, member, failed⟩ := ih others
        exact ⟨item, List.mem_cons_of_mem _ member, failed⟩
      | ok values =>
        rw [others] at h
        cases h

theorem mapM_ok_of_forall {f : α → Except ε β} {g : α → β} {items : List α}
    (h : ∀ item ∈ items, f item = .ok (g item)) : items.mapM f = .ok (items.map g) := by
  induction items with
  | nil => rfl
  | cons first rest ih =>
    rw [List.mapM_cons, h first List.mem_cons_self,
      ih fun item member => h item (List.mem_cons_of_mem _ member)]
    rfl

theorem exists_step_of_foldlM {f : β → α → Except ε β} {items : List α} {start last : β}
    (h : items.foldlM f start = .ok last) {item : α} (member : item ∈ items) :
    ∃ state next, f state item = .ok next := by
  induction items generalizing start with
  | nil => cases member
  | cons first rest ih =>
    rw [List.foldlM_cons, bind_eq_ok] at h
    obtain ⟨next, done, h⟩ := h
    rcases List.mem_cons.mp member with rfl | later
    · exact ⟨start, next, done⟩
    · exact ih h later

/-- Two attempts fail in the same way, or come to related values. -/
inductive RelatedOutcomes (related : α → β → Prop) : Except ε α → Except ε β → Prop
  | error (fault : ε) : RelatedOutcomes related (.error fault) (.error fault)
  | ok {a : α} {b : β} : related a b → RelatedOutcomes related (.ok a) (.ok b)

namespace RelatedOutcomes

variable {related : α → β → Prop} {related' : γ → δ → Prop} {x : Except ε α} {y : Except ε β}

theorem bind (h : RelatedOutcomes related x y) {f : α → Except ε γ} {g : β → Except ε δ}
    (next : ∀ {a b}, related a b → RelatedOutcomes related' (f a) (g b)) :
    RelatedOutcomes related' (x >>= f) (y >>= g) := by
  cases h with
  | error fault => exact .error fault
  | ok values => exact next values

theorem map (h : RelatedOutcomes related x y) {f : α → γ} {g : β → δ}
    (next : ∀ {a b}, related a b → related' (f a) (g b)) :
    RelatedOutcomes related' (x.map f) (y.map g) := by
  cases h with
  | error fault => exact .error fault
  | ok values => exact .ok (next values)

theorem mono (h : RelatedOutcomes related x y) {wider : α → β → Prop}
    (values : ∀ {a b}, related a b → wider a b) : RelatedOutcomes wider x y := by
  cases h with
  | error fault => exact .error fault
  | ok related => exact .ok (values related)

end RelatedOutcomes

end NaturalKey
