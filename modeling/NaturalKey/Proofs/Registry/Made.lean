import NaturalKey.Proofs.Registry.Layers

/-!
What the layers of a registry come to, whatever is found of the schema. It cannot be opened or read,
or what stands in it is no schema; or an entry that survives cannot be registered; or there is a
registry with a field for every type that has one in a layer.
-/

set_option autoImplicit false

namespace NaturalKey

namespace Schema

/-- The entries as they stand in what is found of a schema. Without a schema there are none. -/
inductive Holds : Option Source → List (String × String) → Prop
  | none : Holds none []
  | file {entries : List (String × String)} {text : List UInt8} : Written entries text →
      Holds (some (.file text)) entries

/-- Why no entries stand in what is found. -/
inductive Fails : Source → Fault → Prop
  | missing {error : OsError} : Fails (.missing error) (.io (.os error))
  | directory : Fails .directory (.document (.io (.os .isADirectory)))
  | malformed {text : List UInt8} {fault : Fault} : (∀ entries, ¬Written entries text) →
      parse text = .error fault → Fails (.file text) fault

variable {layer? : Option NamedSource} {fault : Fault}

theorem Holds.ofLayer {entries : List (String × String)}
    (h : Holds (layer?.map NamedSource.source) entries) :
    ofLayer layer? = .ok (SortedMap.empty.putAll entries) := by
  rcases layer? with _ | ⟨path, source⟩
  · cases h
    rfl
  · cases h with
    | file written => exact written.parse

theorem exists_holds {schema : Schema} (read : ofLayer layer? = .ok schema) :
    ∃ entries, Holds (layer?.map NamedSource.source) entries ∧
      schema = SortedMap.empty.putAll entries := by
  rcases layer? with _ | ⟨path, _ | _ | text⟩
  · cases read
    exact ⟨[], .none, rfl⟩
  · cases read
  · cases read
  · obtain ⟨entries, written, rfl⟩ := parse_eq_ok_iff.mp read
    exact ⟨entries, .file written, rfl⟩

theorem ofLayer_eq_error_iff :
    ofLayer layer? = .error fault ↔
      ∃ source, layer?.map NamedSource.source = some source ∧ Fails source fault := by
  constructor
  · intro failed
    rcases layer? with _ | ⟨path, _ | _ | text⟩
    · cases failed
    · cases failed
      exact ⟨_, rfl, .missing⟩
    · cases failed
      exact ⟨_, rfl, .directory⟩
    · refine ⟨_, rfl, .malformed ?_ failed⟩
      intro entries written
      cases written.parse.symm.trans failed
  · rintro ⟨source, found, fails⟩
    rcases layer? with _ | ⟨path, source⟩
    · cases found
    · cases found
      cases fails with
      | missing | directory => rfl
      | malformed _ failed => exact failed

end Schema

namespace Registry

variable {layer? : Option NamedSource} {bindings : List Binding} {fault : Fault}

/-- What the layers come to. The schema is looked at before its entries, and these before the
bindings, which can always be registered. -/
inductive Made (schema? : Option Source) (bindings : List Binding) : Except Fault Registry → Prop
  | unread {source : Source} {fault : Fault} : schema? = some source → Schema.Fails source fault →
      Made schema? bindings (.error fault)
  | refused {entries : List (String × String)} {entry : String × String} {fault : Fault} :
      Schema.Holds schema? entries → RefusedFirst entries entry fault →
      Made schema? bindings (.error fault)
  | built {entries : List (String × String)} {registry : Registry} :
      Schema.Holds schema? entries → (∀ entry, Survives entries entry → Registrable entry) →
      Layered entries bindings registry → Made schema? bindings (.ok registry)

theorem Refused.unique {entry : String × String} {other : Fault} (h : Refused entry fault)
    (h' : Refused entry other) : fault = other := by
  have added : addEntry Registry.default entry = .error fault := addEntry_of_refused h
  rw [addEntry_of_refused h'] at added
  exact Except.error.inj added.symm

theorem Refused.not_registrable {entry : String × String} (h : Refused entry fault) :
    ¬Registrable entry := by
  rintro ⟨recordType, field⟩
  cases h with
  | recordType blank =>
    rw [blank] at recordType
    cases recordType
  | field blank =>
    rw [blank] at field
    cases field

theorem RefusedFirst.unique {entries : List (String × String)} {entry entry' : String × String}
    {other : Fault} (h : RefusedFirst entries entry fault)
    (h' : RefusedFirst entries entry' other) : fault = other := by
  have same : entry = entry' := by
    by_contra differ
    have below := h.least entry' h'.survives h'.refused.not_registrable (Ne.symm differ)
    have above := h'.least entry h.survives h.refused.not_registrable differ
    exact List.lt_asymm below above
  subst same
  exact h.refused.unique h'.refused

theorem result_ofLayers_of_error (failed : Schema.ofLayer layer? = .error fault)
    (bindings : List Binding) : (ofLayers layer? bindings).result = .error fault := by
  unfold ofLayers
  rw [Traced.result_bind, result_withSchema, failed]
  rfl

section Parsed

variable (parsed : ∀ binding ∈ bindings, ∃ text, Binding.parse text = .ok binding)
include parsed

/-- The registry of the program is one that the layers come to. -/
theorem made_ofLayers :
    Made (layer?.map NamedSource.source) bindings (ofLayers layer? bindings).result := by
  cases read : Schema.ofLayer layer? with
  | error fault =>
    obtain ⟨source, found, fails⟩ := Schema.ofLayer_eq_error_iff.mp read
    rw [result_ofLayers_of_error read]
    exact .unread found fails
  | ok schema =>
    obtain ⟨entries, holds, rfl⟩ := Schema.exists_holds read
    by_cases bad : ∃ entry, Survives entries entry ∧ ¬Registrable entry
    · obtain ⟨entry, fault, first, refused⟩ := exists_refusedFirst_ofLayers read bad bindings
      rw [refused]
      exact .refused holds first
    · have registrable : ∀ entry, Survives entries entry → Registrable entry := by simpa using bad
      obtain ⟨registry, made, layered⟩ := exists_layered_ofLayers read registrable parsed
      rw [made]
      exact .built holds registrable layered

theorem made_error_iff :
    Made (layer?.map NamedSource.source) bindings (.error fault) ↔
      (ofLayers layer? bindings).result = .error fault := by
  constructor
  · intro made
    cases made with
    | unread found fails =>
      exact result_ofLayers_of_error (Schema.ofLayer_eq_error_iff.mpr ⟨_, found, fails⟩) bindings
    | refused holds first =>
      obtain ⟨entry, other, first', refused⟩ := exists_refusedFirst_ofLayers holds.ofLayer
        ⟨_, first.survives, first.refused.not_registrable⟩ bindings
      rw [refused, first.unique first']
  · intro failed
    rw [← failed]
    exact made_ofLayers parsed

/-- Whatever the layers come to has the fields that the program finds. -/
theorem Made.exists_result {registry : Registry}
    (h : Made (layer?.map NamedSource.source) bindings (.ok registry)) :
    ∃ other, (ofLayers layer? bindings).result = .ok other ∧
      ∀ recordType, other.field? recordType = registry.field? recordType := by
  cases h with
  | built holds registrable layered =>
    obtain ⟨other, made, layered'⟩ := exists_layered_ofLayers holds.ofLayer registrable parsed
    exact ⟨other, made, fun recordType => (layered'.field _).trans (layered.field _).symm⟩

end Parsed

end Registry

end NaturalKey
