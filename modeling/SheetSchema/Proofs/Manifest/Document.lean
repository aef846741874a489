import SheetSchema.Manifest
import SheetSchema.Proofs.Json.Decode
import SheetSchema.Proofs.Json.Reading

/-!
# Documents of manifests

A manifest is read back from its document.
-/

namespace SheetSchema

namespace ModelEntry

theorem ofJson?_toJson (entry : ModelEntry) : ofJson? entry.toJson = some entry := by
  have hslots : Json.slots? ["package", "model", "file_stem", "imports", "primary_key"]
      entry.toJson = some [some (.string entry.name.package), some (.string entry.name.model),
        some (.string entry.fileStem), some (Json.ofStrings entry.imports),
        some (Json.ofStrings entry.primaryKey)] := rfl
  unfold ofJson?
  rw [hslots]
  simp only [Option.bind_eq_bind, Option.bind_some, Json.required, Json.withDefault, Json.string?,
    Json.list?_ofStrings]

theorem printable_toJson (entry : ModelEntry) : Json.Printable entry.toJson := by
  refine .object ?_
  simp only [List.forall_mem_cons, List.not_mem_nil, false_implies, implies_true, and_true]
  exact ⟨.string _, .string _, .string _, Json.printable_ofStrings _, Json.printable_ofStrings _⟩

end ModelEntry

namespace Manifest

theorem ofJson?_toJson (manifest : Manifest) : ofJson? manifest.toJson = some manifest := by
  have hslots : Json.slots? ["module_path", "order", "models"] manifest.toJson =
      some [some (.string manifest.modulePath), some (Json.ofStrings manifest.order),
        some (Json.ofMap manifest.models ModelEntry.toJson)] := rfl
  have hmodels : Json.map? ModelEntry.ofJson? (Json.ofMap manifest.models ModelEntry.toJson) =
      some manifest.models :=
    Json.map?_ofMap fun entry _ => entry.2.ofJson?_toJson
  unfold ofJson?
  rw [hslots]
  simp only [Option.bind_eq_bind, Option.bind_some, Json.required, Json.string?,
    Json.list?_ofStrings, hmodels]

theorem printable_toJson (manifest : Manifest) : Json.Printable manifest.toJson := by
  refine .object ?_
  simp only [List.forall_mem_cons, List.not_mem_nil, false_implies, implies_true, and_true]
  exact ⟨.string _, Json.printable_ofStrings _,
    Json.printable_ofMap fun entry _ => entry.2.printable_toJson⟩

/-- A manifest is read back from the text of its document. -/
theorem ofText?_toDocument (manifest : Manifest) :
    ofText? manifest.toJson.toDocument = some manifest := by
  unfold ofText?
  rw [Json.read?_toDocument manifest.printable_toJson, Option.bind_some, manifest.ofJson?_toJson]

end Manifest

end SheetSchema
