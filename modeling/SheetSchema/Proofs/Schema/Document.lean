import SheetSchema.Proofs.Cell.Document
import SheetSchema.Proofs.Json.Reading
import SheetSchema.Proofs.Schema.Cells
import SheetSchema.Storage

/-!
# Documents of extractions

The document of an extraction whose cells are canonical is read as that extraction, unless it nests
deeper than documents may, and then it is refused.
-/

namespace SheetSchema

open Json (ReadsWithin)

/-! ## Raw schemas -/

variable {room : ℕ}

/-- Each level of a document takes one from the room for nesting, a row first. -/
theorem Row.readsWithin_toJson {row : Row} (cells : Row.EveryCell Cell.Canonical row) :
    ReadsWithin (Row.ofJson? (room + 1)) (room + 1) (Row.toJson row) row :=
  Json.readsWithin_map fun entry hentry =>
    Cell.readsWithin_toJson entry.2 (cells entry hentry) room

theorem RawModel.readsWithin_toJson {fields : RawModel}
    (cells : RawModel.EveryCell Cell.Canonical fields) :
    ReadsWithin (RawModel.ofJson? (room + 2)) (room + 2) (RawModel.toJson fields) fields :=
  Json.readsWithin_map fun entry hentry => Row.readsWithin_toJson (cells entry hentry)

theorem RawPackage.readsWithin_toJson {models : RawPackage}
    (cells : RawPackage.EveryCell Cell.Canonical models) :
    ReadsWithin (RawPackage.ofJson? (room + 3)) (room + 3) (RawPackage.toJson models) models :=
  Json.readsWithin_map fun entry hentry => RawModel.readsWithin_toJson (cells entry hentry)

theorem RawSchema.readsWithin_toJson {schema : RawSchema}
    (cells : RawSchema.EveryCell Cell.Canonical schema) :
    ReadsWithin (RawSchema.ofJson? (room + 4)) (room + 4) (RawSchema.toJson schema) schema :=
  Json.readsWithin_map fun entry hentry => RawPackage.readsWithin_toJson (cells entry hentry)

theorem Row.printable_toJson (row : Row) : Json.Printable (Row.toJson row) :=
  Json.printable_ofMap fun entry _ => Cell.printable_toJson entry.2

theorem RawPackage.printable_toJson (models : RawPackage) :
    Json.Printable (RawPackage.toJson models) :=
  Json.printable_ofMap fun _ _ =>
    Json.printable_ofMap fun field _ => Row.printable_toJson field.2

theorem RawSchema.printable_toJson (schema : RawSchema) :
    Json.Printable (RawSchema.toJson schema) :=
  Json.printable_ofMap fun package _ => RawPackage.printable_toJson package.2

/-! ## Extractions -/

namespace Extraction

theorem printable_toJson (extraction : Extraction) : Json.Printable extraction.toJson := by
  refine .object fun member hmember => ?_
  rcases List.mem_pair.1 hmember with rfl | rfl
  · exact RawSchema.printable_toJson extraction.schema
  · exact RawPackage.printable_toJson extraction.partials

/-- Levels in the document of an extraction. -/
theorem depth_toJson (extraction : Extraction) :
    extraction.toJson.depth =
      max (RawSchema.toJson extraction.schema).depth (RawPackage.toJson extraction.partials).depth
        + 1 := by
  rw [toJson, Json.depth, Json.depthOfMembers, Json.depthOfMembers, Json.depthOfMembers,
    Nat.max_zero]

/-- An extraction is read back if the depth of its document is allowed. -/
theorem readsWithin_toJson {extraction : Extraction} (cells : extraction.EveryCell Cell.Canonical) :
    ReadsWithin ofJson? Json.maximumDepth extraction.toJson extraction := by
  have hslots : Json.slots? ["schema", "partials"] extraction.toJson =
      some [some (RawSchema.toJson extraction.schema),
        some (RawPackage.toJson extraction.partials)] := rfl
  have hschema : ReadsWithin (RawSchema.ofJson? 126) 126 _ _ :=
    RawSchema.readsWithin_toJson cells.schema
  have hpartials : ReadsWithin (RawPackage.ofJson? 126) 126 _ _ :=
    RawPackage.readsWithin_toJson cells.partials
  unfold ReadsWithin at hschema hpartials ⊢
  unfold ofJson?
  simp only [hslots, Json.maximumDepth, Option.bind_eq_bind, Option.bind_some, Json.required,
    Json.withDefault, hschema, hpartials, depth_toJson, Nat.reduceSub, Nat.reduceLeDiff, Nat.max_le]
  by_cases hfirst : (RawSchema.toJson extraction.schema).depth ≤ 126
  · by_cases hsecond : (RawPackage.toJson extraction.partials).depth ≤ 126
    · simp [hfirst, hsecond]
    · simp [hfirst, hsecond]
  · simp [hfirst]

/-- The document of an extraction with canonical cells is read as the extraction exactly if it
nests no deeper than documents may. -/
theorem ofText_toDocument {extraction : Extraction}
    (cells : extraction.EveryCell Cell.Canonical) :
    ofText extraction.toDocument =
      if extraction.toJson.depth ≤ Json.maximumDepth then .ok extraction else .error .json := by
  have hread : Json.read? extraction.toDocument = some extraction.toJson :=
    Json.read?_toDocument extraction.printable_toJson
  have hwithin : ofJson? extraction.toJson = _ := readsWithin_toJson cells
  unfold ofText ofText?
  rw [hread, Option.bind_some, hwithin]
  by_cases hshallow : extraction.toJson.depth ≤ Json.maximumDepth
  · rw [if_pos hshallow, if_pos hshallow]
  · rw [if_neg hshallow, if_neg hshallow]

end Extraction

end SheetSchema
