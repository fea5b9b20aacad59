import NaturalKey.Proofs.Outcome
import NaturalKey.Proofs.SortedMap
import NaturalKey.Proofs.Tag
import NaturalKey.Registry

/-!
Registries in layers. What is registered is a list of entries, those of the schema before the
bindings, and each of them must have a type and a field. Of the entries for a type the last one
counts.
-/

set_option autoImplicit false

namespace NaturalKey

def Binding.entry (binding : Binding) : String × String :=
  (binding.recordType.text, binding.field)

def Schema.ofLayer : Option NamedSource → Except Fault Schema
  | none => .ok .empty
  | some file => Schema.read file.source

namespace Registry

variable {registry result : Registry} {bindings : List Binding} {schema : Schema}
  {layer? : Option NamedSource} {typeText field : String}

/-- An entry that can be registered: neither its type nor its field is blank. -/
def Registrable (entry : String × String) : Prop :=
  Text.isBlank entry.1 = false ∧ Text.isBlank entry.2 = false

theorem register_eq_ok_iff {recordType : RecordType} {field : String} :
    registry.register recordType field = .ok result ↔
      Text.isBlank field = false ∧ result = ⟨registry.fields.put recordType.text field⟩ := by
  unfold register
  cases blank : Text.isBlank field with
  | true => simp
  | false => simp [eq_comm]

theorem addEntry_eq_ok_iff {entry : String × String} :
    addEntry registry entry = .ok result ↔
      Registrable entry ∧ result = ⟨registry.fields.put entry.1 entry.2⟩ := by
  unfold addEntry Registrable
  rw [bind_eq_ok]
  constructor
  · rintro ⟨recordType, typed, registered⟩
    obtain ⟨field, rfl⟩ := register_eq_ok_iff.mp registered
    have same := Tag.ofText_eq_ok_iff.mp typed
    rw [← same]
    exact ⟨⟨recordType.nonBlank, field⟩, rfl⟩
  · rintro ⟨⟨recordType, field⟩, rfl⟩
    refine ⟨_, Tag.ofText_of_not_isBlank recordType, ?_⟩
    apply register_eq_ok_iff.mpr
    exact ⟨field, rfl⟩

theorem foldlM_addEntry_eq_ok_iff {entries : List (String × String)} :
    entries.foldlM addEntry registry = .ok result ↔
      (∀ entry ∈ entries, Registrable entry) ∧
        result = ⟨registry.fields.putAll entries⟩ := by
  induction entries generalizing registry with
  | nil =>
    rw [List.foldlM_nil]
    constructor
    · rintro ⟨⟩
      exact ⟨nofun, rfl⟩
    · rintro ⟨-, rfl⟩
      rfl
  | cons entry entries ih =>
    rw [List.foldlM_cons, bind_eq_ok, List.forall_mem_cons]
    constructor
    · rintro ⟨next, added, rest⟩
      obtain ⟨first, rfl⟩ := addEntry_eq_ok_iff.mp added
      obtain ⟨others, rfl⟩ := ih.mp rest
      exact ⟨⟨first, others⟩, rfl⟩
    · rintro ⟨⟨first, others⟩, rfl⟩
      exact ⟨_, addEntry_eq_ok_iff.mpr ⟨first, rfl⟩, ih.mpr ⟨others, rfl⟩⟩

theorem addBindings_eq_foldlM (registry : Registry) (bindings : List Binding) :
    registry.addBindings bindings = (bindings.map Binding.entry).foldlM addEntry registry := by
  unfold addBindings
  rw [List.foldlM_map]
  congr
  funext registry binding
  unfold addEntry Binding.entry
  rw [Tag.ofText_text]
  rfl

theorem result_withSchema (registry : Registry) (layer? : Option NamedSource) :
    (registry.withSchema layer?).result = Schema.ofLayer layer? >>= registry.addSchema := by
  cases layer? with
  | none => rfl
  | some file =>
    simp only [withSchema, Schema.ofLayer, Traced.result_bind]
    cases Schema.read file.source with
    | error fault => rfl
    | ok schema => exact bind_pure (registry.addSchema schema)

theorem exists_ofLayer (made : (ofLayers layer? bindings).result = .ok registry) :
    ∃ schema, Schema.ofLayer layer? = .ok schema := by
  unfold ofLayers at made
  rw [Traced.result_bind, result_withSchema] at made
  obtain ⟨first, added, -⟩ := bind_eq_ok.mp made
  obtain ⟨schema, read, -⟩ := bind_eq_ok.mp added
  exact ⟨schema, read⟩

/-- All entries are registered that the layers have, one after another. -/
theorem result_ofLayers (read : Schema.ofLayer layer? = .ok schema) (bindings : List Binding) :
    (ofLayers layer? bindings).result =
      (schema.entries ++ bindings.map Binding.entry).foldlM addEntry Registry.default := by
  unfold ofLayers
  rw [Traced.result_bind, result_withSchema, read, List.foldlM_append]
  unfold addSchema
  congr
  funext registry
  exact addBindings_eq_foldlM registry bindings

theorem result_ofLayers_eq_ok_iff (read : Schema.ofLayer layer? = .ok schema) :
    (ofLayers layer? bindings).result = .ok registry ↔
      (∀ entry ∈ schema.entries ++ bindings.map Binding.entry, Registrable entry) ∧
        registry = ⟨(Registry.default.fields.putAll schema.entries).putAll
          (bindings.map Binding.entry)⟩ := by
  have together : (Registry.default.fields.putAll schema.entries).putAll
        (bindings.map Binding.entry) =
      Registry.default.fields.putAll (schema.entries ++ bindings.map Binding.entry) :=
    List.foldl_append.symm
  rw [result_ofLayers read, foldlM_addEntry_eq_ok_iff, together]

/-- The field of a type in the layers: that of its last binding, or of the schema, or the one that
is known without being told. -/
theorem field?_of_layers (read : Schema.ofLayer layer? = .ok schema)
    (made : (ofLayers layer? bindings).result = .ok registry) (recordType : RecordType) :
    registry.field? recordType =
      ( getEntry? recordType.text (bindings.map Binding.entry).reverse).or
        ((schema.get? recordType.text).or (Registry.default.field? recordType)) := by
  obtain ⟨-, rfl⟩ := (result_ofLayers_eq_ok_iff read).mp made
  unfold field?
  rw [SortedMap.get?_putAll, SortedMap.get?_putAll_entries]

theorem field?_of_unbound (read : Schema.ofLayer layer? = .ok schema)
    (made : (ofLayers layer? bindings).result = .ok registry)
    (entry : schema.get? typeText = some field)
    (unbound : ∀ binding ∈ bindings, binding.recordType.text ≠ typeText) {recordType : RecordType}
    (same : recordType.text = typeText) : registry.field? recordType = some field := by
  have others : getEntry? typeText (bindings.map Binding.entry).reverse = none := by
    unfold getEntry?
    rw [Option.map_eq_none_iff, List.find?_eq_none]
    intro entry member
    obtain ⟨binding, among, rfl⟩ := List.mem_map.mp (List.mem_reverse.mp member)
    have differ : typeText ≠ binding.entry.1 := (unbound binding among).symm
    simpa using differ
  rw [field?_of_layers read made, same, others, entry]
  rfl

theorem field?_of_last {binding : Binding}
    (made : (ofLayers layer? (bindings ++ [binding])).result = .ok registry) :
    registry.field? binding.recordType = some binding.field := by
  obtain ⟨schema, read⟩ := exists_ofLayer made
  have last : getEntry? binding.recordType.text
      ((bindings ++ [binding]).map Binding.entry).reverse = some binding.field := by
    unfold getEntry?
    rw [List.map_append, List.reverse_append, List.map_singleton, List.reverse_singleton,
      List.singleton_append, List.find?_cons]
    simp [Binding.entry]
  rw [field?_of_layers read made, last]
  rfl

theorem isOk_ofLayers_binding {binding : Binding} (field : Text.isBlank binding.field = false) :
    (ofLayers none [binding]).result.isOk = true := by
  have read : Schema.ofLayer none = .ok .empty := rfl
  have registrable : ∀ entry ∈ SortedMap.empty.entries ++ [binding].map Binding.entry,
      Registrable entry := by
    intro entry member
    obtain rfl := List.mem_singleton.mp member
    exact ⟨binding.recordType.nonBlank, field⟩
  exact congrArg Except.isOk ((result_ofLayers_eq_ok_iff read).mpr ⟨registrable, rfl⟩)

theorem registrable_of_get? (read : Schema.ofLayer layer? = .ok schema)
    (made : (ofLayers layer? bindings).result = .ok registry)
    (entry : schema.get? typeText = some field) : Registrable (typeText, field) := by
  obtain ⟨registrable, -⟩ := (result_ofLayers_eq_ok_iff read).mp made
  apply registrable
  apply List.mem_append_left
  exact (getEntry?_eq_some_iff schema.ascending).mp entry

end Registry

end NaturalKey
