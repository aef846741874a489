import SheetSchema.Proofs.Compilation.Steps
import SheetSchema.Proofs.Imports
import SheetSchema.Proofs.Partials.Reach

/-!
# Models compile independently

The tables of a compilation are shared by all models, but what a model leaves in them is decided by
its own rows and by the partials that these reach. So two workbooks that agree on a model and on its
partials agree on all that is compiled from it.
-/

namespace SheetSchema.Compilation

open Relations Typing

/-! ## What one model leaves behind -/

/-- Findings about the fields of one model. -/
def findingsOf (owner : ModelName) (resolved : OrderedMap FieldResolution) : List Diagnostic :=
  resolved.entries.filterMap fun (field, resolution) =>
    resolution.unknown?.map fun declared => ⟨⟨owner, field⟩, declared⟩

/-- Imports of one model: those of its types, then those of its relationships. -/
def importsOfModel (config : CompilerSettings) (owner : ModelName)
    (resolved : OrderedMap FieldResolution) : OrderedSet :=
  .ofList (resolved.values.filterMap FieldResolution.importPath
    ++ (targets (resolved.map fun _ field => field.spec)).flatMap fun entry =>
      importsOf config owner entry.2)

/-- The findings of a compilation about one model are those about its own fields. -/
theorem filter_diagnostics {resolutions : Resolutions} {owner : ModelName}
    {resolved : OrderedMap FieldResolution} (found : resolutions.model? owner = some resolved) :
    (resolutions.diagnostics.filter fun diagnostic => diagnostic.field.owner = owner) =
      findingsOf owner resolved := by
  have hmodels : resolutions.diagnostics =
      resolutions.models.flatMap fun entry => findingsOf entry.1 entry.2 := by
    unfold Resolutions.diagnostics Resolutions.fields findingsOf
    rw [List.filterMap_flatMap]
    simp only [List.filterMap_map]
    rfl
  have howner : ∀ other fields, ∀ diagnostic ∈ findingsOf other fields,
      diagnostic.field.owner = other := by
    intro other fields diagnostic hmem
    obtain ⟨⟨field, resolution⟩, -, hsome⟩ := List.mem_filterMap.1 hmem
    obtain ⟨declared, -, rfl⟩ := Option.map_eq_some_iff.1 hsome
    rfl
  rw [hmodels, List.filter_flatMap,
    ← flatMap_of_unique Prod.fst (Packages.mem_models_iff.2 found)
      (Packages.nodup_names resolutions) fun entry => findingsOf entry.1 entry.2]
  refine List.flatMap_congr fun entry _ => ?_
  -- findings about a model are kept or left out together
  by_cases h : entry.1 = owner
  · rw [if_pos h, List.filter_eq_self]
    intro diagnostic hmem
    exact decide_eq_true ((howner _ _ diagnostic hmem).trans h)
  · rw [if_neg h, List.filter_eq_nil_iff]
    intro diagnostic hmem
    rw [howner _ _ diagnostic hmem]
    simpa using h

/-- Everything that a compilation says about a model follows from the inlined rows of the model. -/
structure FollowsFromRows (config : CompilerSettings) (compilation : Compilation)
    (owner : ModelName) (rows : RawModel) (resolved : OrderedMap FieldResolution)
    (fields : TypedModel) : Prop where
  resolves : rows.traverse (resolveField .standard owner) = .ok resolved
  expands : (expandModel owner (resolved.map fun _ field => field.spec)).map
    (fun outputs => outputs.map fun _ field => field.movePermissions) = .ok fields
  schema : compilation.schema.model? owner = some fields
  routes : compilation.routes.model? owner = some (TypedModel.routes fields)
  manifest : compilation.manifest.models.get? owner.qualified = some {
    name := owner
    fileStem := Text.snakeCase owner.model
    imports := (importsOfModel config owner resolved).items
    primaryKey := TypedModel.primaryKey fields }
  findings : (compilation.diagnostics.filter fun diagnostic => diagnostic.field.owner = owner) =
    findingsOf owner resolved

/-- The same rows are resolved and expanded in one way only. -/
theorem FollowsFromRows.unique {config config' : CompilerSettings}
    {compilation compilation' : Compilation} {owner : ModelName} {rows : RawModel}
    {resolved resolved' : OrderedMap FieldResolution} {fields fields' : TypedModel}
    (one : FollowsFromRows config compilation owner rows resolved fields)
    (other : FollowsFromRows config' compilation' owner rows resolved' fields') :
    resolved = resolved' ∧ fields = fields' := by
  have hresolved : resolved = resolved' := Except.ok.inj (one.resolves.symm.trans other.resolves)
  subst hresolved
  exact ⟨rfl, Except.ok.inj (one.expands.symm.trans other.expands)⟩

section

variable {extraction : Extraction} {raw : RawSchema} {resolutions : Typing.Resolutions}
  {expanded : TypedSchema}

/-- Where dotted names tell models apart, nothing that is imported for other models gets into the
imports of a model. -/
theorem Steps.pathsOf_eq (steps : Steps extraction raw resolutions expanded) (apart : raw.ToldApart)
    (config : CompilerSettings) {owner : ModelName} {resolved : OrderedMap FieldResolution}
    (found : resolutions.model? owner = some resolved) :
    (assemble config resolutions expanded).imports.pathsOf owner.qualified =
      (importsOfModel config owner resolved).items := by
  have htyped : resolutions.schema.model? owner =
      some (resolved.map fun _ field => field.spec) := by
    rw [Typing.Resolutions.schema, Packages.model?_mapModels, found]
    rfl
  show (addImports config resolutions.schema resolutions.imports).pathsOf _ = _
  rw [← Imports.items_setOf, Imports.addImports_eq,
    Imports.setOf_addModels_of_apart (apart.of_names steps.names_typed) htyped,
    Imports.imports_resolutions,
    Imports.setOf_addModels_of_apart (apart.of_names steps.names_resolutions) found,
    ← OrderedSet.insertAll_append]
  rfl

theorem Steps.followsFromRows (steps : Steps extraction raw resolutions expanded)
    (apart : raw.ToldApart) (config : CompilerSettings) {owner : ModelName} {rows : RawModel}
    (found : raw.model? owner = some rows) :
    ∃ resolved fields,
      FollowsFromRows config (assemble config resolutions expanded) owner rows resolved fields := by
  obtain ⟨resolved, outputs, hresolved, hrows, hexpand, hfields⟩ := steps.model config found
  have hderived := derived_assemble config resolutions expanded
  have hnames := steps.names_schema config
  refine ⟨resolved, _, hrows, ?_, hfields, ?_, ?_, filter_diagnostics hresolved⟩
  · rw [hexpand]
    rfl
  · rw [hderived.model?_routes, hfields]
    rfl
  · have howner : owner ∈ (assemble config resolutions expanded).schema.names :=
      Packages.mem_names_iff.2 ⟨_, hfields⟩
    rw [hderived.get?_manifest hfields fun other hother =>
        apart.of_names hnames other hother owner howner,
      ModelEntry.ofModel, steps.pathsOf_eq apart config hresolved]

end

/-! ## Two compilations -/

/-- Two workbooks that declare a model by the same rows, and agree on the partials that these reach,
compile it to the same fields, routes, facts and findings, whatever else they hold. -/
theorem compiles_independently {first second : Workbook} {config : CompilerSettings}
    {extraction extraction' : Extraction} {compilation compilation' : Compilation}
    (extracted : Extraction.ofWorkbook first = .ok extraction)
    (extracted' : Extraction.ofWorkbook second = .ok extraction')
    (compiled : ofExtraction config extraction = .ok compilation)
    (compiled' : ofExtraction config extraction' = .ok compilation')
    {owner : ModelName} {rows : RawModel} (found : extraction.schema.model? owner = some rows)
    (found' : extraction'.schema.model? owner = some rows)
    (agree : ∀ name, extraction.partials.Reaches rows.entries name →
      extraction'.partials.get? name = extraction.partials.get? name) :
    ∃ fields routes entry,
      (compilation.schema.model? owner = some fields ∧
        compilation'.schema.model? owner = some fields) ∧
      (compilation.routes.model? owner = some routes ∧
        compilation'.routes.model? owner = some routes) ∧
      (compilation.manifest.models.get? owner.qualified = some entry ∧
        compilation'.manifest.models.get? owner.qualified = some entry) ∧
      (compilation.diagnostics.filter fun diagnostic => diagnostic.field.owner = owner) =
        compilation'.diagnostics.filter fun diagnostic => diagnostic.field.owner = owner := by
  obtain ⟨raw, resolutions, expanded, hsteps, rfl⟩ := ofExtraction_eq_ok_iff.1 compiled
  obtain ⟨raw', resolutions', expanded', hsteps', rfl⟩ := ofExtraction_eq_ok_iff.1 compiled'
  have hapart := hsteps.toldApart_raw extracted
  have hapart' := hsteps'.toldApart_raw extracted'
  -- both extractions inline the model to the same rows
  obtain ⟨inlined, hinlined, hrows⟩ :=
    Packages.exists_model?_of_traverseModels hsteps.inlined found
  obtain ⟨inlined', hinlined', hrows'⟩ :=
    Packages.exists_model?_of_traverseModels hsteps'.inlined found'
  have hsame : extraction'.partials.inlineModel owner rows =
      extraction.partials.inlineModel owner rows := Partials.inlineInto_congr agree
  rw [hsame, hrows, Except.ok.injEq] at hrows'
  subst hrows'
  obtain ⟨resolved, fields, hfollows⟩ := hsteps.followsFromRows hapart config hinlined
  obtain ⟨resolved', fields', hfollows'⟩ := hsteps'.followsFromRows hapart' config hinlined'
  obtain ⟨rfl, rfl⟩ := hfollows.unique hfollows'
  exact ⟨fields, _, _, ⟨hfollows.schema, hfollows'.schema⟩, ⟨hfollows.routes, hfollows'.routes⟩,
    ⟨hfollows.manifest, hfollows'.manifest⟩, hfollows.findings.trans hfollows'.findings.symm⟩

end SheetSchema.Compilation

/-! ## A market

It has the orders of the shop between other sheets, and a partial that the shop does not have.
-/

namespace SheetSchema.Market

open Compilation

/-- Sheets of the market. -/
def workbook : Workbook := ⟨[
  ⟨"stock", [
    .ofList [("Model", .text "Item"), ("Field", .text "size"), ("Type", .text "enormous")]]⟩,
  ⟨"shop.eu", [
    .ofList [("Model", .text "Order"), ("Field", .text "id"), ("Type", .text "uuid"),
      ("Primary", .bool true)],
    .ofList [("Field", .text "partials.Stamped")],
    .ofList [("Field", .text "users.User"), ("Label", .text "Buyer"),
      ("Read", .text "optional"), ("read", .text "Required")]]⟩,
  ⟨"partials", [
    .ofList [("Model", .text "Audited"), ("Field", .text "partials.Stamped")],
    .ofList [("Model", .text "Stamped"), ("Field", .text "createdAt"), ("Type", .text "time")]]⟩]⟩

/-- Fields of an order as the sheets declare them. -/
def orderRows : RawModel :=
  .ofList [("id", Shop.idRow), ("partials.Stamped", .empty), ("users.User", Shop.buyerRow)]

def itemRows : RawModel := .ofList [("size", .ofList [("Type", .text "enormous")])]

/-- What the sheets declare. -/
def extraction : Extraction where
  schema := .ofList
    [("stock", .ofList [("Item", itemRows)]), ("shop.eu", .ofList [("Order", orderRows)])]
  partials := .ofList
    [("Audited", .ofList [("partials.Stamped", .empty)]), ("Stamped", Shop.stamped)]

/-- Every model with its partials in place. -/
def inlined : RawSchema :=
  .ofList [("stock", .ofList [("Item", itemRows)]), ("shop.eu", .ofList [("Order", Shop.order)])]

theorem extracted : Extraction.ofWorkbook workbook = .ok extraction := by rfl

theorem inlineSchema_extraction :
    extraction.partials.inlineSchema extraction.schema = .ok inlined := by cbv

theorem compiles (config : CompilerSettings) :
    ∃ compilation, ofExtraction config extraction = .ok compilation :=
  exists_ofExtraction_of_inlined inlineSchema_extraction (by decide +kernel) config

/-- An order reaches one partial only. -/
theorem eq_of_reaches {name : String}
    (reached : Shop.extraction.partials.Reaches orderRows.entries name) : name = "Stamped" := by
  have hid : partialName? "id" = none := by decide +kernel
  have hpartial : partialName? "partials.Stamped" = some "Stamped" := by decide +kernel
  have huser : partialName? "users.User" = none := by decide +kernel
  have hcreated : partialName? "createdAt" = none := by decide +kernel
  have hstamped : Shop.extraction.partials.get? "Stamped" = some Shop.stamped := by rfl
  have hrows : orderRows.entries =
    [("id", Shop.idRow), ("partials.Stamped", .empty), ("users.User", Shop.buyerRow)] := by rfl
  have hinner : Shop.stamped.entries = [("createdAt", .ofList [("Type", .text "time")])] := by rfl
  rw [hrows] at reached
  simpa [Partials.reaches_cons_iff, Partials.not_reaches_nil, hid, hpartial, huser, hstamped,
    hinner, hcreated] using reached

/-- An order is compiled to the same fields in the shop and in the market. -/
theorem compiles_independently_of_shop :
    ∃ compilation compilation' fields,
      Extraction.ofWorkbook Shop.workbook = .ok Shop.extraction ∧
      Extraction.ofWorkbook workbook = .ok extraction ∧
      ofExtraction (.ofModulePath "example.com/app") Shop.extraction = .ok compilation ∧
      ofExtraction (.ofModulePath "example.com/app") extraction = .ok compilation' ∧
      compilation.schema.model? ⟨"shop.eu", "Order"⟩ = some fields ∧
      compilation'.schema.model? ⟨"shop.eu", "Order"⟩ = some fields := by
  obtain ⟨compilation, hcompiled⟩ := Shop.compiles (.ofModulePath "example.com/app")
  obtain ⟨compilation', hcompiled'⟩ := compiles (.ofModulePath "example.com/app")
  have hrows : Shop.extraction.schema.model? ⟨"shop.eu", "Order"⟩ = some orderRows := by rfl
  have hrows' : extraction.schema.model? ⟨"shop.eu", "Order"⟩ = some orderRows := by rfl
  have hagree : ∀ name, Shop.extraction.partials.Reaches orderRows.entries name →
      extraction.partials.get? name = Shop.extraction.partials.get? name := by
    intro name hreached
    rw [eq_of_reaches hreached]
    rfl
  obtain ⟨fields, _, _, ⟨hfields, hfields'⟩, -⟩ :=
    compiles_independently Shop.extracted extracted hcompiled hcompiled' hrows hrows' hagree
  exact ⟨compilation, compilation', fields, Shop.extracted, extracted, hcompiled, hcompiled',
    hfields, hfields'⟩

end SheetSchema.Market
