import SheetSchema.Proofs.Blocks
import SheetSchema.Proofs.Packages
import SheetSchema.Relations

/-!
# Tables of imports

The imports of a model are a set: adding an import for one model changes the imports of no other,
and adding it twice changes nothing. A table that is filled model by model holds under every
dotted name the imports of the models of that name.
-/

namespace SheetSchema.Imports

variable {α : Type}

/-! ## Imports of one model -/

theorem nodup_pathsOf (table : Imports) (model : String) : (table.pathsOf model).Nodup := by
  unfold pathsOf
  cases table.get? model with
  | none => exact List.nodup_nil
  | some imports => exact imports.nodup

theorem mem_keys_addAll {table : Imports} {model other : String} {paths : List String}
    (present : other ∈ (table.addAll model paths).keys) : other ∈ table.keys ∨ other = model := by
  unfold addAll at present
  induction paths generalizing table with
  | nil => exact Or.inl present
  | cons added rest ih =>
    rcases ih present with hmem | hmodel
    · exact (OrderedMap.mem_keys_modify.1 hmem).symm
    · exact Or.inr hmodel

/-! ## Tables filled model by model -/

/-- Add what a function finds for every model. -/
def addModels (paths : ModelName → α → List String) (table : Imports)
    (models : List (ModelName × α)) : Imports :=
  models.foldl (fun table entry => table.addAll entry.1.qualified (paths entry.1 entry.2)) table

theorem mem_keys_addModels {paths : ModelName → α → List String} {table : Imports}
    {models : List (ModelName × α)} {qualified : String}
    (present : qualified ∈ (addModels paths table models).keys) :
    qualified ∈ table.keys ∨ ∃ entry ∈ models, entry.1.qualified = qualified := by
  unfold addModels at present
  induction models generalizing table with
  | nil => exact Or.inl present
  | cons entry rest ih =>
    rw [List.exists_mem_cons_iff]
    rcases ih present with hmem | hrest
    · rcases mem_keys_addAll hmem with hold | hmodel
      · exact Or.inl hold
      · exact Or.inr (Or.inl hmodel.symm)
    · exact Or.inr (Or.inr hrest)

/-! ## Imports in order -/

/-- The imports of a model as a set. -/
def setOf (table : Imports) (model : String) : OrderedSet := (table.get? model).getD {}

theorem items_setOf (table : Imports) (model : String) :
    (table.setOf model).items = table.pathsOf model := by
  unfold setOf pathsOf
  cases table.get? model <;> rfl

theorem setOf_add (table : Imports) (model other path : String) :
    (table.add model path).setOf other =
      if other = model then (table.setOf other).insert path else table.setOf other := by
  unfold setOf add
  exact OrderedMap.getD_get?_modify table model other {} fun imports => imports.insert path

/-- Adding paths for one model leaves those of the others. -/
theorem setOf_addAll (table : Imports) (model other : String) (paths : List String) :
    (table.addAll model paths).setOf other =
      (table.setOf other).insertAll (if model = other then paths else []) := by
  unfold addAll
  induction paths generalizing table with
  | nil => simp [OrderedSet.insertAll]
  | cons path rest ih =>
    rw [List.foldl_cons, ih, setOf_add]
    by_cases h : model = other
    · rw [if_pos h, if_pos h.symm, if_pos h]
      rfl
    · rw [if_neg h, if_neg (Ne.symm h), if_neg h]

/-- A table that is filled model by model holds, under every dotted name, the paths of the models of
that name in order. -/
theorem setOf_addModels (paths : ModelName → α → List String) (table : Imports)
    (models : List (ModelName × α)) (qualified : String) :
    (addModels paths table models).setOf qualified =
      (table.setOf qualified).insertAll (models.flatMap fun entry =>
        if entry.1.qualified = qualified then paths entry.1 entry.2 else []) := by
  unfold addModels
  induction models generalizing table with
  | nil => rfl
  | cons entry rest ih =>
    rw [List.foldl_cons, ih, setOf_addAll, List.flatMap_cons, OrderedSet.insertAll_append]

/-- Where dotted names tell models apart, the imports of a model are its own, in order. -/
theorem setOf_addModels_of_apart {paths : ModelName → α → List String} {table : Imports}
    {packages : Packages α} (apart : packages.ToldApart) {owner : ModelName} {item : α}
    (found : packages.model? owner = some item) :
    (addModels paths table packages.models).setOf owner.qualified =
      (table.setOf owner.qualified).insertAll (paths owner item) := by
  have hdistinct := apart.nodup_qualified
  rw [Packages.names, List.map_map] at hdistinct
  have hown := flatMap_of_unique (ModelName.qualified ∘ Prod.fst)
    (Packages.mem_models_iff.2 found) hdistinct fun entry => paths entry.1 entry.2
  rw [setOf_addModels]
  exact congrArg _ hown

/-- Where dotted names tell models apart, no import leaks from one model to another. -/
theorem mem_pathsOf_addModels_of_apart {paths : ModelName → α → List String} {table : Imports}
    {packages : Packages α} (apart : packages.ToldApart) {owner : ModelName} {item : α}
    (found : packages.model? owner = some item) {path : String} :
    path ∈ (addModels paths table packages.models).pathsOf owner.qualified ↔
      path ∈ table.pathsOf owner.qualified ∨ path ∈ paths owner item := by
  rw [← items_setOf, setOf_addModels_of_apart apart found, OrderedSet.mem_insertAll, items_setOf]

/-! ## Imports of a schema -/

/-- Imports that resolved types need, model by model. -/
theorem imports_resolutions (resolutions : Typing.Resolutions) :
    resolutions.imports =
      addModels (fun _ fields => fields.values.filterMap Typing.FieldResolution.importPath) empty
        resolutions.models := rfl

/-- Imports that relationships need, model by model. -/
theorem addImports_eq (config : CompilerSettings) (schema : TypedSchema) (imports : Imports) :
    Relations.addImports config schema imports =
      addModels
        (fun owner fields =>
          (Relations.targets fields).flatMap fun entry =>
            Relations.importsOf config owner entry.2)
        imports schema.models := rfl

end SheetSchema.Imports
