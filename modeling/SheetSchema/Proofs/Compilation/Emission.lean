import SheetSchema.Proofs.Compilation.Steps
import SheetSchema.Proofs.Hierarchy.Edges
import SheetSchema.Proofs.Hierarchy.Listing
import SheetSchema.Proofs.Imports
import SheetSchema.Proofs.Manifest.Check
import SheetSchema.Proofs.Manifest.Entries

/-!
# Every model is emitted once

What a compilation hands to an emitter fits together: the documents pass their check, and the
emitter sees every model of the schema once, in order, with its own facts, fields and routes. This
rests on dotted names telling models apart, which holds for the models of a workbook whatever its
sheets are called.
-/

namespace SheetSchema

namespace Compilation

/-! ## What an emitter sees -/

/-- An emitter that consumes a compilation sees every model once, with its own facts. -/
structure EmitsEveryModel (compilation : Compilation) : Prop where
  /-- The documents fit together. -/
  fits : compilation.context.check = .ok ()
  /-- Models come in the order of the manifest. -/
  ordered : compilation.context.models.map (fun emitted => emitted.manifest.name.qualified) =
    compilation.manifest.order
  /-- The models of the schema come once each. -/
  once : (compilation.context.models.map fun emitted => emitted.manifest.name).Perm
    compilation.schema.names
  /-- Each comes with the facts, fields and routes of its package and name. -/
  own : ∀ emitted ∈ compilation.context.models,
    compilation.schema.model? emitted.manifest.name = some emitted.fields ∧
      compilation.routes.model? emitted.manifest.name = some emitted.routes ∧
      compilation.manifest.models.get? emitted.manifest.name.qualified = some emitted.manifest ∧
      emitted.manifest =
        .ofModel compilation.imports emitted.manifest.name emitted.fields ∧
      emitted.routes = TypedModel.routes emitted.fields

/-- No table of a compilation has one key for two models. -/
structure KeepsModelsApart (compilation : Compilation) : Prop where
  models : Packages.ToldApart compilation.schema
  discovery : (TypedSchema.discoveryOrder compilation.schema).Nodup
  manifest : compilation.manifest.models.keys =
    compilation.schema.names.map ModelName.qualified
  imports : ∀ key ∈ compilation.imports.keys,
    ∃! name, name ∈ compilation.schema.names ∧ name.qualified = key
  children : ∀ edge ∈ compilation.hierarchy.edges,
    ∃! name, name ∈ compilation.schema.names ∧ name.qualified = edge.2
  parents : ∀ edge ∈ compilation.hierarchy.edges,
    ∃! name : ModelName, Text.isIdentifier name.model = true ∧ name.qualified = edge.1

theorem discoveryOrder_eq (schema : TypedSchema) :
    TypedSchema.discoveryOrder schema = (schema.names.map ModelName.qualified).reverse := by
  rw [TypedSchema.discoveryOrder, Packages.names, List.map_map]
  rfl

namespace Derived

variable {config : CompilerSettings} {compilation : Compilation}

theorem nodup_order (derived : Derived config compilation) : compilation.manifest.order.Nodup := by
  rw [derived.manifest]
  exact Hierarchy.nodup_inOrder _

/-- The order has the models of the schema, under their dotted names. -/
theorem mem_order_iff (derived : Derived config compilation) {key : String} :
    key ∈ compilation.manifest.order ↔
      ∃ name ∈ compilation.schema.names, name.qualified = key := by
  rw [derived.manifest]
  show key ∈ Hierarchy.inOrder _ _ _ ↔ _
  rw [Hierarchy.mem_inOrder, discoveryOrder_eq, List.mem_reverse, List.mem_map]

/-- A model told apart from the others is described by all three documents. -/
theorem model?_context (derived : Derived config compilation)
    (apart : Packages.ToldApart compilation.schema) {name : ModelName} {fields : TypedModel}
    (found : compilation.schema.model? name = some fields) :
    compilation.context.model? name.qualified =
      some ⟨.ofModel compilation.imports name fields, fields, TypedModel.routes fields⟩ := by
  have hname : name ∈ compilation.schema.names := Packages.mem_names_iff.2 ⟨fields, found⟩
  refine Emission.model?_eq_some_iff.2 ⟨?_, found, ?_⟩
  · exact derived.get?_manifest found fun other hother => apart other hother name hname
  · show compilation.routes.model? name = _
    rw [derived.model?_routes, found]
    rfl

/-- Whatever the models are called, the facts under an ordered name are about a model of the schema,
which has its routes. -/
theorem isSome_model?_context (derived : Derived config compilation) :
    ∀ key ∈ compilation.manifest.order, (compilation.context.model? key).isSome := by
  intro key hkey
  have hdescribed : key ∈ compilation.manifest.models.keys := by
    rw [derived.manifest]
    exact Manifest.mem_keys_ofSchema.2 (derived.mem_order_iff.1 hkey)
  obtain ⟨entry, hentry⟩ := OrderedMap.mem_keys_iff.1 hdescribed
  obtain ⟨fields, hfields, -, -⟩ := Manifest.model?_of_get?_ofSchema (derived.manifest ▸ hentry)
  have hroutes : compilation.routes.model? entry.name = some (TypedModel.routes fields) := by
    rw [derived.model?_routes, hfields]
    rfl
  have hseen : compilation.context.model? key = some ⟨entry, fields, TypedModel.routes fields⟩ :=
    Emission.model?_eq_some_iff.2 ⟨hentry, hfields, hroutes⟩
  rw [hseen]
  rfl

/-- What is compiled passes the check that an emitter makes. -/
theorem check_context (derived : Derived config compilation) :
    compilation.context.check = .ok () := by
  refine Emission.check_eq_ok_iff_fits.2
    ⟨derived.nodup_order, derived.isSome_model?_context, ?_⟩
  intro key hkey
  have hdescribed : key ∈ compilation.manifest.models.keys := hkey
  rw [derived.manifest] at hdescribed
  exact derived.mem_order_iff.2 (Manifest.mem_keys_ofSchema.1 hdescribed)

/-- What an emitter sees under a name is the model of that name. -/
theorem qualified_of_model?_context (derived : Derived config compilation) {key : String}
    {emitted : EmittedModel} (seen : compilation.context.model? key = some emitted) :
    emitted.manifest.name.qualified = key := by
  have hentry : compilation.manifest.models.get? key = some emitted.manifest :=
    (Emission.model?_eq_some_iff.1 seen).1
  rw [derived.manifest] at hentry
  obtain ⟨_, _, hname, _⟩ := Manifest.model?_of_get?_ofSchema hentry
  exact hname.symm

theorem map_qualified_models (derived : Derived config compilation) :
    compilation.context.models.map (fun emitted => emitted.manifest.name.qualified) =
      compilation.manifest.order := by
  have hseen : List.Forall₂ (fun key emitted => compilation.context.model? key = some emitted)
      compilation.manifest.order compilation.context.models :=
    Emission.forall₂_models derived.isSome_model?_context
  -- every name is the dotted name of the model seen under it
  have hpairs := hseen.imp fun _ _ seen => (derived.qualified_of_model?_context seen).symm
  rw [← List.map_id compilation.manifest.order]
  exact (map_eq_map_of_forall₂ hpairs).symm

/-- The emitted names are the names of the schema, rearranged. -/
theorem perm_names_models (derived : Derived config compilation)
    (apart : Packages.ToldApart compilation.schema) :
    (compilation.context.models.map fun emitted => emitted.manifest.name).Perm
      compilation.schema.names := by
  have hnodup : (compilation.context.models.map fun emitted => emitted.manifest.name).Nodup := by
    refine List.Nodup.of_map ModelName.qualified ?_
    rw [List.map_map]
    exact derived.map_qualified_models ▸ derived.nodup_order
  -- both lists are without repetitions, so it is enough that they have the same members
  refine (List.perm_ext_iff_of_nodup hnodup (Packages.nodup_names _)).2 fun name => ?_
  rw [List.mem_map]
  constructor
  · intro h
    obtain ⟨emitted, hmem, rfl⟩ := h
    obtain ⟨key, _, hseen⟩ := List.mem_filterMap.1 hmem
    have hfields := (Emission.model?_eq_some_iff.1 hseen).2.1
    exact Packages.mem_names_iff.2 ⟨emitted.fields, hfields⟩
  · intro hname
    obtain ⟨fields, hfields⟩ := Packages.mem_names_iff.1 hname
    have hseen := derived.model?_context apart hfields
    refine ⟨_, List.mem_filterMap.2 ⟨name.qualified, ?_, hseen⟩, rfl⟩
    exact derived.mem_order_iff.2 ⟨name, hname, rfl⟩

/-- Where dotted names tell models apart, each of them is emitted once. -/
theorem emitsEveryModel (derived : Derived config compilation)
    (apart : Packages.ToldApart compilation.schema) : EmitsEveryModel compilation where
  fits := derived.check_context
  ordered := derived.map_qualified_models
  once := derived.perm_names_models apart
  own := by
    intro emitted hmem
    obtain ⟨key, _, hseen⟩ := List.mem_filterMap.1 hmem
    have hkey := derived.qualified_of_model?_context hseen
    obtain ⟨hentry, hfields, hroutes⟩ := Emission.model?_eq_some_iff.1 hseen
    -- the emitter asks by dotted name, and under that name it finds the model itself
    have hown := derived.model?_context apart hfields
    rw [hkey, hseen, Option.some.injEq] at hown
    refine ⟨hfields, hroutes, hkey ▸ hentry, ?_, ?_⟩
    · exact congrArg EmittedModel.manifest hown
    · exact congrArg EmittedModel.routes hown

end Derived

/-! ## Tables keyed by dotted names -/

section

variable {extraction : Extraction} {raw : RawSchema} {resolutions : Typing.Resolutions}
  {expanded : TypedSchema} {config : CompilerSettings}

/-- Imports are only recorded for models of the schema. -/
theorem exists_name_of_mem_imports (steps : Steps extraction raw resolutions expanded)
    {key : String} (hkey : key ∈ (assemble config resolutions expanded).imports.keys) :
    ∃ name ∈ raw.names, name.qualified = key := by
  have hadded : key ∈ (Relations.addImports config resolutions.schema resolutions.imports).keys :=
    hkey
  rw [Imports.addImports_eq] at hadded
  rcases Imports.mem_keys_addModels hadded with hresolved | ⟨entry, hentry, hname⟩
  · rw [Imports.imports_resolutions] at hresolved
    rcases Imports.mem_keys_addModels hresolved with hnone | ⟨entry, hentry, hname⟩
    · simp [Imports.empty] at hnone
    · exact ⟨entry.1, steps.names_resolutions ▸ List.mem_map_of_mem hentry, hname⟩
  · exact ⟨entry.1, steps.names_typed ▸ List.mem_map_of_mem hentry, hname⟩

/-- Children in the hierarchy are models of the schema, and parents are named by identifiers. -/
theorem exists_names_of_mem_hierarchy (steps : Steps extraction raw resolutions expanded)
    {edge : String × String}
    (hedge : edge ∈ (assemble config resolutions expanded).hierarchy.edges) :
    (∃ name ∈ raw.names, name.qualified = edge.2) ∧
      ∃ target : ModelName, Text.isIdentifier target.model = true ∧ target.qualified = edge.1 := by
  obtain ⟨entry, hentry, ⟨key, target⟩, htarget, rfl⟩ := Relations.mem_edges_hierarchy.1 hedge
  -- a target need not be a model of the schema, but its key was checked when it was read
  obtain ⟨_, _, _, hidentifier⟩ :=
    ModelName.ofKey?_eq_ok_iff.1 (Relations.mem_targets_iff.1 htarget).2
  exact ⟨⟨entry.1, steps.names_typed ▸ List.mem_map_of_mem hentry, rfl⟩,
    target, hidentifier, rfl⟩

/-- Dotted names that tell models apart do so in every table that is keyed by them. -/
theorem keepsModelsApart (steps : Steps extraction raw resolutions expanded)
    (apart : Packages.ToldApart (assemble config resolutions expanded).schema) :
    KeepsModelsApart (assemble config resolutions expanded) where
  models := apart
  discovery := by
    rw [discoveryOrder_eq, List.nodup_reverse]
    exact apart.nodup_qualified
  manifest := Manifest.keys_ofSchema apart.nodup_qualified
  imports := by
    intro key hkey
    obtain ⟨name, hname, hqualified⟩ := exists_name_of_mem_imports steps hkey
    rw [← steps.names_schema config] at hname
    refine ⟨name, ⟨hname, hqualified⟩, ?_⟩
    intro other hother
    exact apart other hother.1 name hname (hother.2.trans hqualified.symm)
  children := by
    intro edge hedge
    obtain ⟨⟨name, hname, hqualified⟩, -⟩ := exists_names_of_mem_hierarchy steps hedge
    rw [← steps.names_schema config] at hname
    refine ⟨name, ⟨hname, hqualified⟩, ?_⟩
    intro other hother
    exact apart other hother.1 name hname (hother.2.trans hqualified.symm)
  parents := by
    intro edge hedge
    obtain ⟨-, target, hidentifier, hqualified⟩ := exists_names_of_mem_hierarchy steps hedge
    refine ⟨target, ⟨hidentifier, hqualified⟩, ?_⟩
    intro other hother
    exact ModelName.eq_of_qualified_eq hother.1 hidentifier (hother.2.trans hqualified.symm)

end

/-- Whatever the sheets of a workbook are called and however its models are ordered, the compiled
schema has the extracted models, an emitter sees each of them once with its own facts, fields and
routes, and no table has one key for two of them. -/
theorem emits_models_of_workbook {workbook : Workbook} {config : CompilerSettings}
    {extraction : Extraction} {compilation : Compilation}
    (extracted : Extraction.ofWorkbook workbook = .ok extraction)
    (compiled : ofExtraction config extraction = .ok compilation) :
    compilation.schema.names = extraction.schema.names ∧ EmitsEveryModel compilation ∧
      KeepsModelsApart compilation := by
  obtain ⟨raw, resolutions, expanded, hsteps, rfl⟩ := ofExtraction_eq_ok_iff.1 compiled
  have hapart := hsteps.toldApart extracted config
  exact ⟨hsteps.names_extracted config,
    (derived_assemble config resolutions expanded).emitsEveryModel hapart,
    keepsModelsApart hsteps hapart⟩

/-- The shop with a dotted package reaches an emitter whole. -/
theorem emits_models_of_shop :
    ∃ compilation, Extraction.ofWorkbook Shop.workbook = .ok Shop.extraction ∧
      ofExtraction (.ofModulePath "example.com/app") Shop.extraction = .ok compilation ∧
      compilation.schema.names = [⟨"shop.eu", "Order"⟩, ⟨"users", "User"⟩] ∧
      EmitsEveryModel compilation ∧ KeepsModelsApart compilation := by
  obtain ⟨compilation, hcompiled⟩ := Shop.compiles (.ofModulePath "example.com/app")
  obtain ⟨hnames, hemits, happart⟩ := emits_models_of_workbook Shop.extracted hcompiled
  exact ⟨compilation, Shop.extracted, hcompiled, hnames.trans (by decide +kernel), hemits, happart⟩

end Compilation

end SheetSchema
