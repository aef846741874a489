import SheetSchema.Manifest
import SheetSchema.Proofs.Packages

/-!
# Entries of a manifest

The manifest of a schema holds under every dotted name the facts about a model of that name. Where
no other model shares the name, these are the facts about the model itself.
-/

namespace SheetSchema.Manifest

/-- Dotted names with the facts that the manifest of a schema is made of. -/
def described (schema : TypedSchema) (imports : Imports) : List (String × ModelEntry) :=
  schema.models.map fun entry => (entry.1.qualified, .ofModel imports entry.1 entry.2)

variable {modulePath : String} {schema : TypedSchema} {imports : Imports} {order : List String}

theorem models_ofSchema :
    (ofSchema modulePath schema imports order).models =
      OrderedMap.ofList (described schema imports) := rfl

theorem map_fst_described :
    (described schema imports).map Prod.fst = schema.names.map ModelName.qualified := by
  rw [described, Packages.names, List.map_map, List.map_map]
  rfl

theorem mem_described_iff {key : String} {entry : ModelEntry} :
    (key, entry) ∈ described schema imports ↔
      ∃ fields, schema.model? entry.name = some fields ∧ key = entry.name.qualified ∧
        entry = .ofModel imports entry.name fields := by
  unfold described
  rw [List.mem_map]
  constructor
  · intro h
    obtain ⟨⟨name, fields⟩, hmem, heq⟩ := h
    simp only [Prod.mk.injEq] at heq
    obtain ⟨rfl, rfl⟩ := heq
    exact ⟨fields, Packages.mem_models_iff.1 hmem, rfl, rfl⟩
  · intro h
    obtain ⟨fields, hfound, hkey, hentry⟩ := h
    refine ⟨(entry.name, fields), Packages.mem_models_iff.2 hfound, ?_⟩
    rw [hkey, ← hentry]

/-- Every entry is about a model of its name. -/
theorem model?_of_get?_ofSchema {key : String} {entry : ModelEntry}
    (found : (ofSchema modulePath schema imports order).models.get? key = some entry) :
    ∃ fields, schema.model? entry.name = some fields ∧ key = entry.name.qualified ∧
      entry = .ofModel imports entry.name fields := by
  rw [models_ofSchema, OrderedMap.get?_ofList] at found
  exact mem_described_iff.1 (List.mem_reverse.1 (OrderedMap.mem_of_lookup found))

/-- A model that shares its dotted name with no other has its own entry. -/
theorem get?_ofSchema {name : ModelName} {fields : TypedModel}
    (found : schema.model? name = some fields)
    (alone : ∀ other ∈ schema.names, other.qualified = name.qualified → other = name) :
    (ofSchema modulePath schema imports order).models.get? name.qualified =
      some (.ofModel imports name fields) := by
  rw [models_ofSchema]
  refine OrderedMap.get?_ofList_of_unique ?_ ?_
  · exact mem_described_iff.2 ⟨fields, found, rfl, rfl⟩
  · -- an entry under this key is about a model of this dotted name, so about this model
    intro entry hentry
    obtain ⟨fields', hfound, hkey, hfacts⟩ := mem_described_iff.1 hentry
    have hname : entry.name = name :=
      alone entry.name (Packages.mem_names_iff.2 ⟨fields', hfound⟩) hkey.symm
    have hfields : fields' = fields := by
      rw [hname, found] at hfound
      exact (Option.some.inj hfound).symm
    rw [hfacts, hname, hfields]

theorem mem_keys_ofSchema {key : String} :
    key ∈ (ofSchema modulePath schema imports order).models.keys ↔
      ∃ name ∈ schema.names, name.qualified = key := by
  rw [models_ofSchema, OrderedMap.mem_keys_ofList, map_fst_described, List.mem_map]

/-- Where dotted names are distinct, the manifest has one entry a model, in order. -/
theorem keys_ofSchema (distinct : (schema.names.map ModelName.qualified).Nodup) :
    (ofSchema modulePath schema imports order).models.keys =
      schema.names.map ModelName.qualified := by
  rw [← @map_fst_described schema imports] at distinct
  rw [models_ofSchema, OrderedMap.keys, OrderedMap.entries_ofList distinct, map_fst_described]

end SheetSchema.Manifest
