import Mathlib.Data.List.Permutation
import SheetSchema.Compilation
import SheetSchema.Proofs.Extraction.Identifiers
import SheetSchema.Proofs.Manifest.Entries
import SheetSchema.Proofs.Packages
import SheetSchema.Proofs.Runs

/-!
# Steps of a compilation

A successful compilation is three successful steps and an assembly. Every step works model by
model, so all of them have the same models in the same order, and each model can be followed
through the steps on its own.
-/

namespace SheetSchema

namespace Compilation

/-- The inlined schema, the resolutions and the expanded schema of an extraction that compiles. -/
structure Steps (extraction : Extraction) (raw : RawSchema) (resolutions : Typing.Resolutions)
    (expanded : TypedSchema) : Prop where
  inlined : extraction.partials.inlineSchema extraction.schema = .ok raw
  resolved : Typing.resolve .standard raw = .ok resolutions
  expanded : Relations.expandSchema resolutions.schema = .ok expanded

/-- A compilation is the assembly of its steps. -/
theorem ofExtraction_eq_ok_iff {config : CompilerSettings} {extraction : Extraction}
    {compilation : Compilation} :
    ofExtraction config extraction = .ok compilation ↔
      ∃ raw resolutions expanded, Steps extraction raw resolutions expanded ∧
        assemble config resolutions expanded = compilation := by
  unfold ofExtraction
  rw [bind_eq_ok_iff]
  constructor
  · intro h
    obtain ⟨raw, hinlined, hrest⟩ := h
    obtain ⟨resolutions, hresolved, hrest⟩ := bind_eq_ok_iff.1 hrest
    obtain ⟨expanded, hexpanded, hdone⟩ := bind_eq_ok_iff.1 hrest
    simp only [Except.ok.injEq] at hdone
    exact ⟨raw, resolutions, expanded, ⟨hinlined, hresolved, hexpanded⟩, hdone⟩
  · intro h
    obtain ⟨raw, resolutions, expanded, hsteps, hdone⟩ := h
    refine ⟨raw, hsteps.inlined, bind_eq_ok_iff.2 ⟨resolutions, hsteps.resolved, ?_⟩⟩
    exact bind_eq_ok_iff.2 ⟨expanded, hsteps.expanded, by rw [hdone]⟩

/-- Settings have no say in whether an extraction compiles. -/
theorem exists_ofExtraction_iff {config : CompilerSettings} {extraction : Extraction} :
    (∃ compilation, ofExtraction config extraction = .ok compilation) ↔
      ∃ raw resolutions expanded, Steps extraction raw resolutions expanded := by
  constructor
  · intro h
    obtain ⟨_, hcompiled⟩ := h
    obtain ⟨raw, resolutions, expanded, hsteps, -⟩ := ofExtraction_eq_ok_iff.1 hcompiled
    exact ⟨raw, resolutions, expanded, hsteps⟩
  · intro h
    obtain ⟨raw, resolutions, expanded, hsteps⟩ := h
    exact ⟨_, ofExtraction_eq_ok_iff.2 ⟨raw, resolutions, expanded, hsteps, rfl⟩⟩

/-- The compilation of an extraction whose inlined schema is known. -/
theorem ofExtraction_of_inlined {config : CompilerSettings} {extraction : Extraction}
    {raw : RawSchema} (inlined : extraction.partials.inlineSchema extraction.schema = .ok raw) :
    ofExtraction config extraction =
      (Typing.resolve .standard raw).bind fun resolutions =>
        (Relations.expandSchema resolutions.schema).map (assemble config resolutions) := by
  unfold ofExtraction
  rw [inlined]
  rfl

/-- An extraction compiles if its inlined schema can be resolved and expanded. -/
theorem exists_ofExtraction_of_inlined {extraction : Extraction} {raw : RawSchema}
    (inlined : extraction.partials.inlineSchema extraction.schema = .ok raw)
    (expands : ((Typing.resolve .standard raw).bind fun resolutions =>
      Relations.expandSchema resolutions.schema).isOk = true) (config : CompilerSettings) :
    ∃ compilation, ofExtraction config extraction = .ok compilation := by
  obtain ⟨expanded, hexpanded⟩ := exists_of_isOk expands
  obtain ⟨resolutions, hresolved, hexpanded⟩ := bind_eq_ok_iff.1 hexpanded
  exact exists_ofExtraction_iff.2 ⟨raw, resolutions, expanded, inlined, hresolved, hexpanded⟩

namespace Steps

variable {extraction : Extraction} {raw : RawSchema} {resolutions : Typing.Resolutions}
  {expanded : TypedSchema}

/-! ## The same models throughout -/

/-- Inlining keeps the models of the workbook. -/
theorem names_raw (steps : Steps extraction raw resolutions expanded) :
    raw.names = extraction.schema.names :=
  Packages.names_traverseModels steps.inlined

theorem names_resolutions (steps : Steps extraction raw resolutions expanded) :
    resolutions.names = raw.names :=
  Packages.names_traverseModels steps.resolved

theorem names_typed (steps : Steps extraction raw resolutions expanded) :
    resolutions.schema.names = raw.names := by
  rw [Typing.Resolutions.schema, Packages.names_mapModels, steps.names_resolutions]

theorem names_expanded (steps : Steps extraction raw resolutions expanded) :
    expanded.names = raw.names := by
  rw [Packages.names_traverseModels steps.expanded, steps.names_typed]

/-- The compiled models are the inlined ones. -/
theorem names_schema (steps : Steps extraction raw resolutions expanded)
    (config : CompilerSettings) :
    (assemble config resolutions expanded).schema.names = raw.names := by
  unfold assemble TypedSchema.movePermissions
  rw [Packages.names_mapModels, steps.names_expanded]

/-- What is extracted is what is compiled. -/
theorem names_extracted (steps : Steps extraction raw resolutions expanded)
    (config : CompilerSettings) :
    (assemble config resolutions expanded).schema.names = extraction.schema.names :=
  (steps.names_schema config).trans steps.names_raw

/-- The inlined models of a workbook are told apart by their dotted names. -/
theorem toldApart_raw (steps : Steps extraction raw resolutions expanded) {workbook : Workbook}
    (extracted : Extraction.ofWorkbook workbook = .ok extraction) : raw.ToldApart :=
  (Extraction.identified_ofWorkbook extracted).toldApart.of_names steps.names_raw

/-- So are the compiled ones. -/
theorem toldApart (steps : Steps extraction raw resolutions expanded) {workbook : Workbook}
    (extracted : Extraction.ofWorkbook workbook = .ok extraction) (config : CompilerSettings) :
    Packages.ToldApart (assemble config resolutions expanded).schema :=
  (steps.toldApart_raw extracted).of_names (steps.names_schema config)

/-! ## One model at a time -/

/-- A model of the inlined schema is resolved and expanded on its own, and the compiled schema
holds its fields with their permissions moved. -/
theorem model (steps : Steps extraction raw resolutions expanded) (config : CompilerSettings)
    {owner : ModelName} {rows : RawModel} (found : raw.model? owner = some rows) :
    ∃ resolved outputs,
      resolutions.model? owner = some resolved ∧
      rows.traverse (Typing.resolveField .standard owner) = .ok resolved ∧
      Relations.expandModel owner (resolved.map fun _ field => field.spec) = .ok outputs ∧
      (assemble config resolutions expanded).schema.model? owner =
        some (outputs.map fun _ field => field.movePermissions) := by
  obtain ⟨resolved, hresolved, hrows⟩ :=
    Packages.exists_model?_of_traverseModels steps.resolved found
  have htyped : resolutions.schema.model? owner =
      some (resolved.map fun _ field => field.spec) := by
    rw [Typing.Resolutions.schema, Packages.model?_mapModels, hresolved]
    rfl
  obtain ⟨outputs, houtputs, hexpand⟩ :=
    Packages.exists_model?_of_traverseModels steps.expanded htyped
  refine ⟨resolved, outputs, hresolved, hrows, hexpand, ?_⟩
  show (TypedSchema.movePermissions expanded).model? owner = _
  rw [TypedSchema.movePermissions, Packages.model?_mapModels, houtputs]
  rfl

end Steps

/-! ## What follows from the compiled schema -/

/-- The routes and the manifest follow from the schema, the imports and the hierarchy. -/
structure Derived (config : CompilerSettings) (compilation : Compilation) : Prop where
  routes : compilation.routes = TypedSchema.routes compilation.schema
  manifest : compilation.manifest =
    .ofSchema config.modulePath compilation.schema compilation.imports
      (compilation.hierarchy.inOrder config.sort
        (TypedSchema.discoveryOrder compilation.schema))

theorem derived_assemble (config : CompilerSettings) (resolutions : Typing.Resolutions)
    (expanded : TypedSchema) : Derived config (assemble config resolutions expanded) where
  routes := rfl
  manifest := rfl

namespace Derived

variable {config : CompilerSettings} {compilation : Compilation}

/-- Every compiled model has its own routes. -/
theorem model?_routes (derived : Derived config compilation) (owner : ModelName) :
    compilation.routes.model? owner =
      (compilation.schema.model? owner).map TypedModel.routes := by
  rw [derived.routes, TypedSchema.routes, Packages.model?_mapModels]

theorem names_routes (derived : Derived config compilation) :
    compilation.routes.names = compilation.schema.names := by
  rw [derived.routes, TypedSchema.routes, Packages.names_mapModels]

/-- A compiled model that shares its dotted name with no other has its own facts. -/
theorem get?_manifest (derived : Derived config compilation) {owner : ModelName}
    {fields : TypedModel} (found : compilation.schema.model? owner = some fields)
    (alone : ∀ other ∈ compilation.schema.names,
      other.qualified = owner.qualified → other = owner) :
    compilation.manifest.models.get? owner.qualified =
      some (.ofModel compilation.imports owner fields) := by
  rw [derived.manifest]
  exact Manifest.get?_ofSchema found alone

end Derived

end Compilation

/-! ## A shop

Its package has a dot in its name, and its orders use a partial and point at another package.
-/

namespace Shop

/-- Sheets of the shop. -/
def workbook : Workbook := ⟨[
  ⟨"partials", [
    .ofList [("Model", .text "Stamped"), ("Field", .text "createdAt"), ("Type", .text "time")]]⟩,
  ⟨"shop.eu", [
    .ofList [("Model", .text "Order"), ("Field", .text "id"), ("Type", .text "uuid"),
      ("Primary", .bool true)],
    .ofList [("Field", .text "partials.Stamped")],
    .ofList [("Field", .text "users.User"), ("Label", .text "Buyer"),
      ("Read", .text "optional"), ("read", .text "Required")]]⟩,
  ⟨"users", [
    .ofList [("Model", .text "User"), ("Field", .text "id"), ("Type", .text "uuid")]]⟩]⟩

/-- Cells that are the same before and after inlining. -/
def idRow : Row := .ofList [("Type", .text "uuid"), ("Primary", .bool true)]

def buyerRow : Row :=
  .ofList [("Label", .text "Buyer"), ("Read", .text "optional"), ("read", .text "Required")]

def stamped : RawModel := .ofList [("createdAt", .ofList [("Type", .text "time")])]

def user : RawModel := .ofList [("id", .ofList [("Type", .text "uuid")])]

/-- What the sheets declare. -/
def extraction : Extraction where
  schema := .ofList [
    ("shop.eu", .ofList [("Order", .ofList
      [("id", idRow), ("partials.Stamped", .empty), ("users.User", buyerRow)])]),
    ("users", .ofList [("User", user)])]
  partials := .ofList [("Stamped", stamped)]

/-- Orders with the partial in place. -/
def order : RawModel :=
  .ofList [("id", idRow), ("createdAt", .ofList [("Type", .text "time")]), ("users.User", buyerRow)]

/-- Every model with its partials in place. -/
def inlined : RawSchema :=
  .ofList [("shop.eu", .ofList [("Order", order)]), ("users", .ofList [("User", user)])]

theorem extracted : Extraction.ofWorkbook workbook = .ok extraction := by rfl

theorem inlineSchema_extraction :
    extraction.partials.inlineSchema extraction.schema = .ok inlined := by cbv

/-- The shop compiles under all settings. -/
theorem compiles (config : CompilerSettings) :
    ∃ compilation, Compilation.ofExtraction config extraction = .ok compilation :=
  -- inlining recurses on what is left to inline, so its result is given above instead
  Compilation.exists_ofExtraction_of_inlined inlineSchema_extraction (by decide +kernel) config

end Shop

end SheetSchema
