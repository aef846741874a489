import SheetSchema.Proofs.Compilation.Rows
import SheetSchema.Proofs.Relations.Outputs

/-!
# No column is lost or invented

Four phases rewrite the columns of a row one after the other. Together they do what a direct
translation of the row does: every column ends up in one place, in its order and with its value, or
is left out by name.
-/

namespace SheetSchema.Compilation

open Relations Typing

/-! ## A direct translation of rows -/

/-- Columns of a row that stay columns: those that are neither reserved nor markers. -/
def keptColumns (row : Row) : List (String × Cell) :=
  row.entries.filter fun entry =>
    !TypedField.reservedColumns.contains entry.1 && !isMarked entry.1 entry.2

/-- Columns of an identifier. Its type is `uuid`, in the place of the declared type if there is
one. -/
def identifierColumns (columns : List (String × Cell)) : List (String × Cell) :=
  if typeColumn ∈ columns.map Prod.fst then
    columns.map fun entry =>
      if entry.1 = typeColumn then (typeColumn, .text identifierType) else entry
  else columns ++ [(typeColumn, .text identifierType)]

/-- A field that keeps some columns and takes everything else from its row. -/
structure FieldOf (row : Row) (columns : List (String × Cell)) (field : TypedField) : Prop where
  columns : field.columns.entries = columns
  /-- The default value is that of the row, unless it is blank. -/
  defaultValue : field.defaultValue =
    (row.get? TypedField.defaultColumn).filter fun cell => !cell.isBlank
  /-- Every action has the permission of its last marker. -/
  api : ∀ action, field.api.get action = (Row.markers row action).getLast?
  primaryKey : field.primaryKey = isSet row primaryColumn
  plain : field.isReference = false

/-- A reference takes nothing from its row. -/
structure EmptyReference (field : TypedField) : Prop where
  columns : field.columns.entries = []
  api : field.api = PerAction.empty
  primaryKey : field.primaryKey = false
  reference : field.isReference = true

/-- The fields that one row is translated into. -/
inductive TranslatedRow : String × Row → List (String × TypedField) → Prop
  /-- A row without a dot in its name is a field of the same name. -/
  | field {key : String} {row : Row} {field : TypedField} (undotted : '.' ∉ key.toList)
      (translated : FieldOf row (keptColumns row) field) :
      TranslatedRow (key, row) [(key, field)]
  /-- A row named after a model is a reference, and right after it an identifier. -/
  | relationship {target : ModelName} {row : Row} {reference identifier : TypedField}
      (package : '.' ∉ target.package.toList) (model : '.' ∉ target.model.toList)
      (refers : EmptyReference reference)
      (translated : FieldOf row (identifierColumns (keptColumns row)) identifier) :
      TranslatedRow (target.qualified, row)
        [(target.model, reference), (target.model ++ "Id", identifier)]

/-! ## Columns of the compiled fields -/

/-- No reserved column is the name of an action. -/
theorem reserved_unmarked {column : String} {action : Action}
    (reserved : column ∈ TypedField.reservedColumns) :
    Text.sameIgnoringCase column action.name = false := by
  revert reserved
  revert column
  cases action <;> decide +kernel

theorem typeColumn_unmarked (action : Action) :
    Text.sameIgnoringCase typeColumn action.name = false := by
  cases action <;> decide +kernel

theorem isMarked_typeColumn (cell : Cell) : isMarked typeColumn cell = false := by
  unfold isMarked
  rw [List.any_eq_false]
  intro action _
  rw [marked?_eq_none cell (typeColumn_unmarked action)]
  decide

/-- Lifting a row leaves out no marker. -/
theorem markers_ofRow (row : Row) (action : Action) :
    Row.markers (TypedField.ofRow row).columns action = Row.markers row action := by
  refine Row.markers_filter fun entry _ hdropped => ?_
  rw [Bool.not_eq_false', List.contains_iff_mem] at hdropped
  exact marked?_eq_none entry.2 (reserved_unmarked hdropped)

theorem identifierColumns_eq_insertEntry {columns : List (String × Cell)}
    (nodup : (columns.map Prod.fst).Nodup) :
    identifierColumns columns =
      OrderedMap.insertEntry typeColumn (.text identifierType) columns := by
  unfold identifierColumns
  by_cases h : typeColumn ∈ columns.map Prod.fst
  · rw [if_pos h, OrderedMap.insertEntry_of_mem nodup h]
  · rw [if_neg h, OrderedMap.insertEntry_of_notMem h]

/-- Lifting a row and moving its permissions keeps the columns that are to be kept. -/
theorem filter_ofRow (row : Row) :
    ((TypedField.ofRow row).columns.entries.filter fun entry => !isMarked entry.1 entry.2) =
      keptColumns row := by
  have hentries : (TypedField.ofRow row).columns.entries =
      row.entries.filter fun entry => !TypedField.reservedColumns.contains entry.1 := rfl
  rw [hentries, List.filter_filter]
  refine List.filter_congr fun entry _ => ?_
  rw [Bool.and_comm]

theorem nodup_keptColumns (row : Row) : ((keptColumns row).map Prod.fst).Nodup :=
  row.nodup.sublist (List.filter_sublist.map Prod.fst)

/-! ## Compiled rows are translated rows -/

/-- A resolved field with its permissions moved keeps the columns of its row. -/
theorem fieldOf_resolved {owner : ModelName} {key : String} {row : Row}
    {resolution : FieldResolution}
    (resolved : resolveField .standard owner key row = .ok resolution) :
    FieldOf row (keptColumns row) resolution.spec.movePermissions := by
  obtain ⟨type, length, autoCreateTime, hspec, -⟩ := resolveField_eq_ok resolved
  have hcolumns : resolution.spec.columns = (TypedField.ofRow row).columns := by rw [hspec]; rfl
  have hapi : resolution.spec.api = PerAction.empty := by rw [hspec]; rfl
  constructor
  · rw [TypedField.entries_movePermissions, hcolumns, filter_ofRow]
  · rw [hspec]; rfl
  · intro action
    rw [TypedField.api_movePermissions, hcolumns, hapi, markers_ofRow]
    cases action <;> simp [PerAction.get, PerAction.empty]
  · rw [hspec]; rfl
  · rw [hspec]; rfl

/-- An identifier keeps the columns of its row, but for the type. -/
theorem fieldOf_identifierField (row : Row) :
    FieldOf row (identifierColumns (keptColumns row))
      (identifierField (untyped row)).movePermissions where
  columns := by
    rw [TypedField.entries_movePermissions,
      identifierColumns_eq_insertEntry (nodup_keptColumns row), ← filter_ofRow]
    -- the type column is never a marker, so writing it and removing markers commute
    refine OrderedMap.filter_insertEntry ?_ _ _
    intro cell
    rw [isMarked_typeColumn]
    rfl
  defaultValue := rfl
  api := by
    intro action
    have hcolumns : (identifierField (untyped row)).columns =
        (TypedField.ofRow row).columns.insert typeColumn (.text identifierType) := rfl
    rw [TypedField.api_movePermissions, hcolumns,
      Row.markers_insert (typeColumn_unmarked action), markers_ofRow]
    cases action <;> simp [identifierField, untyped, TypedField.ofRow, PerAction.get,
      PerAction.empty]
  primaryKey := rfl
  plain := rfl

theorem emptyReference_referenceField (owner target : ModelName) :
    EmptyReference (referenceField owner target) where
  columns := rfl
  api := rfl
  primaryKey := rfl
  reference := rfl

/-- The phases translate every row. -/
theorem CompiledRow.translated {owner : ModelName} {entry : String × Row}
    {block : List (String × TypedField)} (compiled : CompiledRow owner entry block) :
    TranslatedRow entry block := by
  cases compiled with
  | field undotted resolved => exact .field undotted (fieldOf_resolved resolved)
  | @relationship key row target points =>
    obtain ⟨rfl, -, hpackage, hidentifier⟩ := ModelName.ofKey?_eq_ok_iff.1 points
    exact .relationship hpackage (ModelName.dot_notMem_of_isIdentifier hidentifier)
      (emptyReference_referenceField owner target) (fieldOf_identifierField row)

/-! ## One field for every row -/

/-- Name of the field into which a row goes: its own, or `<Model>Id` for a row that is named
`<package>.<Model>`. Of the names that the row produces it is the last. -/
def outputName (key : String) : String := (outputNames key).getLastD key

/-- Columns of the field into which a row goes. -/
def outputColumns (key : String) (row : Row) : List (String × Cell) :=
  if '.' ∈ key.toList then identifierColumns (keptColumns row) else keptColumns row

theorem outputName_of_notMem {key : String} (undotted : '.' ∉ key.toList) :
    outputName key = key := by
  rw [outputName, outputNames_of_notMem undotted]
  rfl

/-- A relationship goes into the identifier of its target. -/
theorem outputName_qualified {target : ModelName} (package : '.' ∉ target.package.toList) :
    outputName target.qualified = target.model ++ "Id" := by
  rw [outputName, outputNames_qualified package]
  rfl

/-- Every row has a field with its columns, under the name that its key leads to. -/
theorem TranslatedRow.exists_fieldOf {key : String} {row : Row}
    {block : List (String × TypedField)} (translated : TranslatedRow (key, row) block) :
    ∃ field, (outputName key, field) ∈ block ∧ FieldOf row (outputColumns key row) field := by
  cases translated with
  | @field _ _ field undotted carried =>
    rw [outputName_of_notMem undotted, outputColumns, if_neg undotted]
    exact ⟨field, List.mem_singleton.2 rfl, carried⟩
  | @relationship target _ _ identifier package _ _ carried =>
    have hdotted : '.' ∈ target.qualified.toList := by
      rw [ModelName.toList_qualified]
      simp
    rw [outputName_qualified package, outputColumns, if_pos hdotted]
    exact ⟨identifier, by simp, carried⟩

/-! ## Compiled models are translated models -/

/-- The compiled model is the direct translation of its inlined rows. -/
theorem Steps.translated {extraction : Extraction} {raw : RawSchema}
    {resolutions : Typing.Resolutions} {expanded : TypedSchema}
    (steps : Steps extraction raw resolutions expanded) (config : CompilerSettings)
    {owner : ModelName} {rows : RawModel} (found : raw.model? owner = some rows) :
    ∃ fields blocks, (assemble config resolutions expanded).schema.model? owner = some fields ∧
      List.Forall₂ TranslatedRow rows.entries blocks ∧ fields.entries = blocks.flatten := by
  obtain ⟨fields, blocks, hfields, hblocks, hentries⟩ := steps.rows config found
  exact ⟨fields, blocks, hfields, hblocks.imp fun _ _ compiled => compiled.translated, hentries⟩

/-- Compilation translates every row of every inlined model on its own and in order: each goes into
one field, relationships have an empty reference before it, and there are no other fields. -/
theorem columns_of_extraction {config : CompilerSettings} {extraction : Extraction}
    {compilation : Compilation} (compiled : ofExtraction config extraction = .ok compilation) :
    ∃ raw, extraction.partials.inlineSchema extraction.schema = .ok raw ∧
      compilation.schema.names = raw.names ∧
      ∀ owner rows, raw.model? owner = some rows →
        ∃ fields blocks, compilation.schema.model? owner = some fields ∧
          List.Forall₂ TranslatedRow rows.entries blocks ∧ fields.entries = blocks.flatten ∧
          ∀ key row, rows.get? key = some row →
            ∃ field, fields.get? (outputName key) = some field ∧
              FieldOf row (outputColumns key row) field := by
  obtain ⟨raw, resolutions, expanded, hsteps, rfl⟩ := ofExtraction_eq_ok_iff.1 compiled
  refine ⟨raw, hsteps.inlined, hsteps.names_schema config, ?_⟩
  intro owner rows hrows
  obtain ⟨fields, blocks, hfields, hblocks, hentries⟩ := hsteps.translated config hrows
  refine ⟨fields, blocks, hfields, hblocks, hentries, ?_⟩
  intro key row hrow
  obtain ⟨block, hblock, htranslated⟩ :=
    exists_mem_of_forall₂ hblocks (OrderedMap.mem_entries_iff.2 hrow)
  obtain ⟨field, hmem, hfield⟩ := htranslated.exists_fieldOf
  refine ⟨field, OrderedMap.mem_entries_iff.1 ?_, hfield⟩
  rw [hentries]
  exact List.mem_flatten.2 ⟨block, hblock, hmem⟩

/-- The columns of the buyer of an order of the shop go into an identifier. -/
theorem columns_of_shop :
    ∃ compilation fields field,
      ofExtraction (.ofModulePath "example.com/app") Shop.extraction = .ok compilation ∧
        compilation.schema.model? ⟨"shop.eu", "Order"⟩ = some fields ∧
        fields.get? "UserId" = some field ∧
        FieldOf Shop.buyerRow (identifierColumns (keptColumns Shop.buyerRow)) field := by
  obtain ⟨compilation, hcompiled⟩ := Shop.compiles (.ofModulePath "example.com/app")
  obtain ⟨raw, hraw, -, hmodels⟩ := columns_of_extraction hcompiled
  rw [Shop.inlineSchema_extraction, Except.ok.injEq] at hraw
  subst hraw
  obtain ⟨fields, -, hfields, -, -, hrows⟩ := hmodels ⟨"shop.eu", "Order"⟩ Shop.order (by rfl)
  obtain ⟨field, hfound, hfield⟩ := hrows "users.User" Shop.buyerRow (by rfl)
  have hname : outputName "users.User" = "UserId" := by decide +kernel
  have hcolumns : outputColumns "users.User" Shop.buyerRow =
      identifierColumns (keptColumns Shop.buyerRow) := if_pos (by decide)
  rw [hname] at hfound
  rw [hcolumns] at hfield
  exact ⟨compilation, fields, field, hcompiled, hfields, hfound, hfield⟩

end SheetSchema.Compilation
