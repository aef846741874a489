import SheetSchema.Proofs.Blocks
import SheetSchema.Proofs.Compilation.Steps
import SheetSchema.Proofs.Permissions
import SheetSchema.Proofs.Relations.Expansion
import SheetSchema.Proofs.Typing.Resolution

/-!
# Rows and the fields that they become

The phases of a compilation are passes over whole schemas, but each row goes through them on its
own. A compiled model is the concatenation of what its rows become.
-/

namespace SheetSchema.Compilation

open Relations Typing

/-- The fields that one row of a model is compiled into. -/
inductive CompiledRow (owner : ModelName) : String × Row → List (String × TypedField) → Prop
  /-- A row without a dot in its name stays one field. -/
  | field {key : String} {row : Row} {resolution : FieldResolution} (undotted : '.' ∉ key.toList)
      (resolved : resolveField .standard owner key row = .ok resolution) :
      CompiledRow owner (key, row) [(key, resolution.spec.movePermissions)]
  /-- Any other row becomes the two halves of a relationship. -/
  | relationship {key : String} {row : Row} {target : ModelName}
      (points : ModelName.ofKey? key = some (.ok target)) :
      CompiledRow owner (key, row)
        [(target.model, referenceField owner target),
          (identifierName target, (identifierField (untyped row)).movePermissions)]

/-- A reference has no permissions to move. -/
theorem movePermissions_referenceField (owner target : ModelName) :
    (referenceField owner target).movePermissions = referenceField owner target := rfl

/-- A row that is resolved and expanded is compiled. -/
theorem compiledRow_of_expandField {owner : ModelName} {key : String} {row : Row}
    {resolution : FieldResolution} {outputs : List (String × TypedField)}
    (resolved : resolveField .standard owner key row = .ok resolution)
    (expanded : expandField owner key resolution.spec = .ok outputs) :
    CompiledRow owner (key, row)
      (outputs.map fun output => (output.1, output.2.movePermissions)) := by
  rcases expandField_eq_ok expanded with ⟨hnone, rfl⟩ | ⟨target, htarget, rfl⟩
  · exact CompiledRow.field (ModelName.ofKey?_eq_none_iff.1 hnone) resolved
  · -- a name that reads as a relationship has a dot, so its row was resolved without a type
    have hdotted : '.' ∈ key.toList := by
      by_contra hundotted
      rw [ModelName.ofKey?_of_notMem hundotted] at htarget
      contradiction
    rw [(resolveField_dotted hdotted resolved).1, List.map_cons, List.map_cons, List.map_nil,
      movePermissions_referenceField]
    exact CompiledRow.relationship htarget

namespace Steps

variable {extraction : Extraction} {raw : RawSchema} {resolutions : Typing.Resolutions}
  {expanded : TypedSchema}

/-- The fields of a compiled model are what its rows become, in order. -/
theorem rows (steps : Steps extraction raw resolutions expanded) (config : CompilerSettings)
    {owner : ModelName} {rows : RawModel} (found : raw.model? owner = some rows) :
    ∃ fields blocks, (assemble config resolutions expanded).schema.model? owner = some fields ∧
      List.Forall₂ (CompiledRow owner) rows.entries blocks ∧
      fields.entries = blocks.flatten := by
  obtain ⟨resolved, outputs, -, hrows, hexpand, hfields⟩ := steps.model config found
  obtain ⟨blocks, hblocks, houtputs⟩ := entries_of_expandModel hexpand
  refine ⟨_, blocks.map (List.map fun output => (output.1, output.2.movePermissions)), hfields,
    ?_, ?_⟩
  · -- a field keeps its name when it is resolved, so both passes speak of the same row
    rw [List.forall₂_map_right_iff]
    have hexpanded := List.forall₂_map_left_iff.1 hblocks
    refine forall₂_trans ?_ (OrderedMap.forall₂_of_traverse hrows) hexpanded
    intro entry resolution block hresolved hblock
    obtain ⟨hkey, hok⟩ := hresolved
    rw [hkey] at hblock
    exact compiledRow_of_expandField hok hblock
  · show outputs.entries.map _ = _
    rw [houtputs, List.map_flatten]

end Steps

end SheetSchema.Compilation
