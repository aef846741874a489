import SheetSchema.Proofs.Compilation.Rows
import SheetSchema.Proofs.Hierarchy.Edges
import SheetSchema.Proofs.Imports

/-!
# Imports are those that the fields need

Imports are recorded on the side, for types while they are resolved and for relationships while
they are expanded. In the end every model imports exactly what its own compiled fields need.
-/

namespace SheetSchema

/-- A reference field points at a model. -/
def TypedField.PointsAt (field : TypedField) (target : ModelName) : Prop :=
  field.references = some target.qualified ∧ Text.isIdentifier target.model = true

/-- An import that a field of a model needs. -/
inductive TypedField.NeedsImport (config : CompilerSettings) (owner : ModelName)
    (field : TypedField) : String → Prop
  /-- Identifiers need their import. -/
  | uuid (plain : field.isReference = false) (type : field.type = some Target.uuid) :
      NeedsImport config owner field Target.uuidImport
  /-- Points in time, whether they may be missing or not, need their import. -/
  | time (plain : field.isReference = false)
      (type : field.type = some Target.time ∨ field.type = some Target.optionalTime) :
      NeedsImport config owner field Target.timeImport
  /-- References to models of other packages need the package. -/
  | package {target : ModelName} (points : field.PointsAt target)
      (other : target.package ≠ owner.package) :
      NeedsImport config owner field (config.importPathOf target.package)

namespace Compilation

open Relations Typing

variable {config : CompilerSettings} {owner : ModelName} {path : String}

/-! ## Imports of one field -/

/-- A field that is no reference needs what its type needs. -/
theorem needsImport_iff_of_plain {field : TypedField} (plain : field.references = none) :
    field.NeedsImport config owner path ↔ ∃ type, field.type = some type ∧ Needs type path := by
  have hreference : field.isReference = false := by
    rw [TypedField.isReference, plain]
    rfl
  constructor
  · intro h
    cases h with
    | uuid _ htype => exact ⟨_, htype, Or.inl ⟨rfl, rfl⟩⟩
    | time _ htype =>
      rcases htype with htype | htype
      · exact ⟨_, htype, Or.inr ⟨Or.inl rfl, rfl⟩⟩
      · exact ⟨_, htype, Or.inr ⟨Or.inr rfl, rfl⟩⟩
    | package points _ =>
      rw [TypedField.PointsAt, plain] at points
      exact absurd points.1 (by simp)
  · intro h
    obtain ⟨type, htype, hneeds⟩ := h
    rcases hneeds with ⟨rfl, rfl⟩ | ⟨rfl | rfl, rfl⟩
    · exact .uuid hreference htype
    · exact .time hreference (Or.inl htype)
    · exact .time hreference (Or.inr htype)

/-- A reference needs the package of its target, unless it is the package of its owner. -/
theorem needsImport_referenceField_iff {target : ModelName}
    (identifier : Text.isIdentifier target.model = true) :
    (referenceField owner target).NeedsImport config owner path ↔
      target.package ≠ owner.package ∧ path = config.importPathOf target.package := by
  have hreference : (referenceField owner target).isReference = true := rfl
  constructor
  · intro h
    cases h with
    | uuid plain _ => rw [hreference] at plain; contradiction
    | time plain _ => rw [hreference] at plain; contradiction
    | @package target' points other =>
      -- the dotted name that is referred to has one reading with an identifier after its last dot
      have hsame : target = target' :=
        ModelName.eq_of_qualified_eq identifier points.2 (Option.some.inj points.1)
      rw [hsame]
      exact ⟨other, rfl⟩
  · intro h
    obtain ⟨hother, rfl⟩ := h
    exact .package ⟨rfl, identifier⟩ hother

theorem needsImport_identifierField_iff {row : Row} :
    (identifierField (untyped row)).movePermissions.NeedsImport config owner path ↔
      path = Target.uuidImport := by
  have hplain : (identifierField (untyped row)).movePermissions.references = none := rfl
  have htype : (identifierField (untyped row)).movePermissions.type = some Target.uuid := rfl
  rw [needsImport_iff_of_plain hplain]
  constructor
  · intro h
    obtain ⟨type, hsome, hneeds⟩ := h
    rw [htype, Option.some.injEq] at hsome
    subst hsome
    rcases hneeds with ⟨-, hpath⟩ | ⟨htime, -⟩
    · exact hpath
    · exact absurd htime (by decide)
  · intro hpath
    exact ⟨_, htype, Or.inl ⟨rfl, hpath⟩⟩

theorem mem_importsOf_iff {target : ModelName} :
    path ∈ importsOf config owner target ↔
      (target.package ≠ owner.package ∧ path = config.importPathOf target.package) ∨
        path = Target.uuidImport := by
  unfold importsOf
  rw [List.mem_append, List.mem_singleton]
  by_cases h : target.package = owner.package
  · rw [if_pos h]
    simp [h]
  · rw [if_neg h]
    simp [h]

/-! ## Imports of one row -/

/-- An import that is recorded for a row, in one phase or the other. -/
def RecordedFor (config : CompilerSettings) (owner : ModelName) (entry : String × Row)
    (path : String) : Prop :=
  (∃ resolution, resolveField .standard owner entry.1 entry.2 = .ok resolution ∧
    resolution.importPath = some path) ∨
    ∃ target, ModelName.ofKey? entry.1 = some (.ok target) ∧ path ∈ importsOf config owner target

/-- What is recorded for a row is what the fields that it becomes need. -/
theorem recordedFor_iff {entry : String × Row} {block : List (String × TypedField)}
    (compiled : CompiledRow owner entry block) :
    RecordedFor config owner entry path ↔
      ∃ output ∈ block, output.2.NeedsImport config owner path := by
  cases compiled with
  | @field key row resolution undotted resolved =>
    obtain ⟨type, length, autoCreateTime, hspec, himport⟩ := resolveField_eq_ok resolved
    have hplain : resolution.spec.movePermissions.references = none := by rw [hspec]; rfl
    have htype : resolution.spec.movePermissions.type = type := by rw [hspec]; rfl
    simp only [List.mem_singleton, exists_eq_left]
    rw [needsImport_iff_of_plain hplain, htype, ← himport]
    unfold RecordedFor
    simp [resolved, ModelName.ofKey?_of_notMem undotted]
  | @relationship key row target points =>
    obtain ⟨rfl, -, -, hidentifier⟩ := ModelName.ofKey?_eq_ok_iff.1 points
    have hdotted : '.' ∈ target.qualified.toList := by
      rw [ModelName.toList_qualified]
      simp
    have hnone : ∀ resolution, resolveField .standard owner target.qualified row = .ok resolution →
        resolution.importPath ≠ some path := by
      intro resolution hresolved
      rw [(resolveField_dotted hdotted hresolved).2]
      simp
    rw [List.exists_mem_cons_iff, List.exists_mem_cons_iff,
      needsImport_referenceField_iff hidentifier, needsImport_identifierField_iff]
    unfold RecordedFor
    constructor
    · intro h
      rcases h with ⟨resolution, hresolved, hpath⟩ | ⟨target', htarget', hpath⟩
      · -- resolution passes over dotted names
        exact absurd hpath (hnone resolution hresolved)
      · rw [points, Option.some.injEq, Except.ok.injEq] at htarget'
        rw [← htarget', mem_importsOf_iff] at hpath
        exact hpath.imp_right Or.inl
    · intro h
      refine Or.inr ⟨target, points, mem_importsOf_iff.2 ?_⟩
      simpa using h

/-! ## Imports of one model -/

theorem mem_importPaths_iff {resolved : OrderedMap FieldResolution} :
    path ∈ resolved.values.filterMap FieldResolution.importPath ↔
      ∃ entry ∈ resolved.entries, entry.2.importPath = some path := by
  rw [OrderedMap.values, List.filterMap_map, List.mem_filterMap]
  rfl

theorem mem_targetImports_iff {fields : TypedModel} :
    (path ∈ (targets fields).flatMap fun entry => importsOf config owner entry.2) ↔
      ∃ key ∈ fields.keys, ∃ target, ModelName.ofKey? key = some (.ok target) ∧
        path ∈ importsOf config owner target := by
  rw [List.mem_flatMap]
  constructor
  · intro h
    obtain ⟨⟨key, target⟩, htarget, hpath⟩ := h
    obtain ⟨hkey, hpoints⟩ := mem_targets_iff.1 htarget
    exact ⟨key, hkey, target, hpoints, hpath⟩
  · intro h
    obtain ⟨key, hkey, target, hpoints, hpath⟩ := h
    exact ⟨(key, target), mem_targets_iff.2 ⟨hkey, hpoints⟩, hpath⟩

namespace Steps

variable {extraction : Extraction} {raw : RawSchema} {resolutions : Typing.Resolutions}
  {expanded : TypedSchema}

/-- The imports of a model are those recorded for its rows. -/
theorem mem_pathsOf_iff (steps : Steps extraction raw resolutions expanded)
    (apart : raw.ToldApart) {rows : RawModel} (found : raw.model? owner = some rows) :
    path ∈ (assemble config resolutions expanded).imports.pathsOf owner.qualified ↔
      ∃ entry ∈ rows.entries, RecordedFor config owner entry path := by
  obtain ⟨resolved, -, hresolved, hrows, -, -⟩ := steps.model config found
  have htyped : resolutions.schema.model? owner =
      some (resolved.map fun _ field => field.spec) := by
    rw [Typing.Resolutions.schema, Packages.model?_mapModels, hresolved]
    rfl
  -- both passes record imports under the dotted name, and no other model has that name
  have hpasses : path ∈ (assemble config resolutions expanded).imports.pathsOf owner.qualified ↔
      (∃ entry ∈ resolved.entries, entry.2.importPath = some path) ∨
        ∃ key ∈ resolved.keys, ∃ target, ModelName.ofKey? key = some (.ok target) ∧
          path ∈ importsOf config owner target := by
    show path ∈ (addImports config resolutions.schema resolutions.imports).pathsOf _ ↔ _
    rw [Imports.addImports_eq,
      Imports.mem_pathsOf_addModels_of_apart (apart.of_names steps.names_typed) htyped,
      Imports.imports_resolutions,
      Imports.mem_pathsOf_addModels_of_apart (apart.of_names steps.names_resolutions) hresolved,
      mem_importPaths_iff, mem_targetImports_iff, OrderedMap.keys_map]
    simp [Imports.empty, Imports.pathsOf]
  have hentries : (∃ key ∈ resolved.keys, ∃ target, ModelName.ofKey? key = some (.ok target) ∧
        path ∈ importsOf config owner target) ↔
      ∃ entry ∈ resolved.entries, ∃ target, ModelName.ofKey? entry.1 = some (.ok target) ∧
        path ∈ importsOf config owner target := by
    unfold OrderedMap.keys
    simp only [List.mem_map, exists_exists_and_eq_and]
  rw [hpasses, hentries, ← exists_or]
  simp only [← and_or_left]
  refine (exists_mem_iff_of_forall₂ (OrderedMap.forall₂_of_traverse hrows) ?_).symm
  intro entry entry' h
  obtain ⟨hkey, hok⟩ := h
  unfold RecordedFor
  rw [hkey, hok]
  simp

end Steps

/-- The imports of a model are without repetitions, and they are exactly those that its own fields
need. -/
theorem imports_of_workbook {workbook : Workbook} {config : CompilerSettings}
    {extraction : Extraction} {compilation : Compilation}
    (extracted : Extraction.ofWorkbook workbook = .ok extraction)
    (compiled : ofExtraction config extraction = .ok compilation) :
    ∀ owner ∈ extraction.schema.names, ∃ fields entry,
      compilation.schema.model? owner = some fields ∧
        compilation.manifest.models.get? owner.qualified = some entry ∧ entry.name = owner ∧
        entry.imports.Nodup ∧
        ∀ path, path ∈ entry.imports ↔
          ∃ name field, fields.get? name = some field ∧ field.NeedsImport config owner path := by
  intro owner howner
  obtain ⟨raw, resolutions, expanded, hsteps, rfl⟩ := ofExtraction_eq_ok_iff.1 compiled
  have hraw := hsteps.toldApart_raw extracted
  have hschema := hsteps.toldApart extracted config
  rw [← hsteps.names_raw] at howner
  obtain ⟨rows, hrows⟩ := Packages.mem_names_iff.1 howner
  obtain ⟨fields, blocks, hfields, hblocks, hentries⟩ := hsteps.rows config hrows
  have hname : owner ∈ (assemble config resolutions expanded).schema.names :=
    Packages.mem_names_iff.2 ⟨fields, hfields⟩
  have hentry := (derived_assemble config resolutions expanded).get?_manifest hfields
    fun other hother => hschema other hother owner hname
  refine ⟨fields, _, hfields, hentry, rfl, Imports.nodup_pathsOf _ _, ?_⟩
  intro path
  show path ∈ (assemble config resolutions expanded).imports.pathsOf owner.qualified ↔ _
  -- from the table to the rows, and from the rows to the compiled fields
  rw [hsteps.mem_pathsOf_iff hraw hrows,
    exists_mem_iff_of_forall₂ hblocks fun _ _ hcompiled => recordedFor_iff hcompiled]
  constructor
  · intro h
    obtain ⟨block, hblock, ⟨name, field⟩, houtput, hneeds⟩ := h
    have hmem : (name, field) ∈ fields.entries :=
      hentries ▸ List.mem_flatten.2 ⟨block, hblock, houtput⟩
    exact ⟨name, field, OrderedMap.mem_entries_iff.1 hmem, hneeds⟩
  · intro h
    obtain ⟨name, field, hfound, hneeds⟩ := h
    have hmem : (name, field) ∈ blocks.flatten := hentries ▸ OrderedMap.mem_entries_iff.2 hfound
    obtain ⟨block, hblock, houtput⟩ := List.mem_flatten.1 hmem
    exact ⟨block, hblock, (name, field), houtput, hneeds⟩

/-- An order of the shop imports identifiers, points in time and the package of its buyer. -/
theorem imports_of_shop :
    ∃ compilation fields entry,
      Extraction.ofWorkbook Shop.workbook = .ok Shop.extraction ∧
      ofExtraction (.ofModulePath "example.com/app") Shop.extraction = .ok compilation ∧
      compilation.schema.model? ⟨"shop.eu", "Order"⟩ = some fields ∧
      compilation.manifest.models.get? "shop.eu.Order" = some entry ∧ entry.imports.Nodup ∧
      ∀ path, path ∈ entry.imports ↔
        ∃ name field, fields.get? name = some field ∧
          field.NeedsImport (.ofModulePath "example.com/app") ⟨"shop.eu", "Order"⟩ path := by
  obtain ⟨compilation, hcompiled⟩ := Shop.compiles (.ofModulePath "example.com/app")
  obtain ⟨fields, entry, hfields, hentry, -, hnodup, hexact⟩ :=
    imports_of_workbook Shop.extracted hcompiled ⟨"shop.eu", "Order"⟩ (by decide +kernel)
  exact ⟨compilation, fields, entry, Shop.extracted, hcompiled, hfields, hentry, hnodup, hexact⟩

end Compilation

end SheetSchema
