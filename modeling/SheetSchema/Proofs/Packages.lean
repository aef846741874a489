import SheetSchema.Proofs.OrderedMap
import SheetSchema.Proofs.Runs
import SheetSchema.Schema.Basic

/-!
# Laws of packages

The list of all models and the lookup of one model are two views of the same packages, and a
rewriting of every model changes neither which models there are nor their order.
-/

namespace SheetSchema.Packages

variable {α β ε : Type}

/-- Names of all models in order. -/
def names (packages : Packages α) : List ModelName := packages.models.map Prod.fst

/-! ## List and lookup -/

/-- A model is looked up in the entries of its package. -/
theorem model?_of_mem {packages : Packages α} {package : String × OrderedMap α}
    {model : String × α} (inPackages : package ∈ packages.entries)
    (inPackage : model ∈ package.2.entries) :
    packages.model? ⟨package.1, model.1⟩ = some model.2 := by
  rw [model?, OrderedMap.mem_entries_iff.1 inPackages, Option.bind_some]
  exact OrderedMap.mem_entries_iff.1 inPackage

/-- The list of models and the lookup agree, as names within a package are distinct. -/
theorem mem_models_iff {packages : Packages α} {name : ModelName} {item : α} :
    (name, item) ∈ packages.models ↔ packages.model? name = some item := by
  rw [models, List.mem_flatMap]
  constructor
  · intro h
    obtain ⟨⟨package, models⟩, hpackage, hitem⟩ := h
    obtain ⟨⟨model, found⟩, hmodel, heq⟩ := List.mem_map.1 hitem
    simp only [Prod.mk.injEq] at heq
    obtain ⟨rfl, rfl⟩ := heq
    exact model?_of_mem hpackage hmodel
  · intro hfound
    obtain ⟨models, hpackage, hmodel⟩ := Option.bind_eq_some_iff.1 hfound
    refine ⟨(name.package, models), OrderedMap.mem_entries_iff.2 hpackage, ?_⟩
    exact List.mem_map.2 ⟨(name.model, item), OrderedMap.mem_entries_iff.2 hmodel, rfl⟩

/-- A model is listed exactly if it is found. -/
theorem mem_names_iff {packages : Packages α} {name : ModelName} :
    name ∈ packages.names ↔ ∃ item, packages.model? name = some item := by
  rw [names, List.mem_map]
  constructor
  · intro h
    obtain ⟨⟨_, item⟩, hmem, rfl⟩ := h
    exact ⟨item, mem_models_iff.1 hmem⟩
  · intro h
    obtain ⟨item, hfound⟩ := h
    exact ⟨(name, item), mem_models_iff.2 hfound, rfl⟩

/-- Names of the models of one package. -/
theorem map_fst_models_of_package (package : String) (models : OrderedMap α) :
    (models.entries.map fun entry => ((⟨package, entry.1⟩ : ModelName), entry.2)).map Prod.fst =
      models.keys.map (ModelName.mk package) := by
  rw [OrderedMap.keys, List.map_map, List.map_map]
  rfl

/-- No two models have the same package and name. -/
theorem nodup_names (packages : Packages α) : packages.names.Nodup := by
  unfold names models
  rw [List.map_flatMap, List.nodup_flatMap]
  constructor
  · -- within one package the models differ
    intro h _
    obtain ⟨package, models⟩ := h
    rw [map_fst_models_of_package]
    refine models.nodup_keys.map fun first second same => ?_
    exact (ModelName.mk.injEq ..).mp same |>.2
  · -- models of different packages differ in the package
    have hdistinct := packages.nodup
    rw [List.Nodup, List.pairwise_map] at hdistinct
    refine hdistinct.imp ?_
    intro first second hne
    obtain ⟨first, models⟩ := first
    obtain ⟨second, models'⟩ := second
    simp only [Function.onFun]
    rw [map_fst_models_of_package, map_fst_models_of_package]
    intro name hfirst hsecond
    obtain ⟨_, _, rfl⟩ := List.mem_map.1 hfirst
    obtain ⟨_, _, heq⟩ := List.mem_map.1 hsecond
    exact hne ((ModelName.mk.injEq ..).mp heq).1.symm

/-! ## Rewriting every model -/

theorem models_mapModels (packages : Packages α) (f : ModelName → α → β) :
    (packages.mapModels f).models =
      packages.models.map fun entry => (entry.1, f entry.1 entry.2) := by
  simp [models, mapModels, OrderedMap.map, List.flatMap_map, List.map_flatMap, List.map_map,
    Function.comp_def]

theorem names_mapModels (packages : Packages α) (f : ModelName → α → β) :
    (packages.mapModels f).names = packages.names := by
  rw [names, models_mapModels, names, List.map_map]
  rfl

/-- A rewritten model depends on that model only. -/
theorem model?_mapModels (packages : Packages α) (f : ModelName → α → β) (name : ModelName) :
    (packages.mapModels f).model? name = (packages.model? name).map (f name) := by
  unfold model? mapModels
  rw [OrderedMap.get?_map]
  cases packages.get? name.package with
  | none => rfl
  | some models => exact OrderedMap.get?_map models _ name.model

/-- What a successful rewriting of every model means for each of them. -/
theorem forall₂_of_traverseModels {packages : Packages α} {f : ModelName → α → Except ε β}
    {packages' : Packages β} (done : packages.traverseModels f = .ok packages') :
    List.Forall₂ (fun entry entry' => entry'.1 = entry.1 ∧ f entry.1 entry.2 = .ok entry'.2)
      packages.models packages'.models := by
  refine List.rel_flatMap (OrderedMap.forall₂_of_traverse done) ?_
  intro first second h
  obtain ⟨package, models⟩ := first
  obtain ⟨package', models'⟩ := second
  obtain ⟨hname, hmodels⟩ := h
  simp only at hname hmodels
  subst hname
  rw [List.forall₂_map_left_iff, List.forall₂_map_right_iff]
  refine (OrderedMap.forall₂_of_traverse hmodels).imp ?_
  intro first second h
  obtain ⟨model, item⟩ := first
  obtain ⟨model', item'⟩ := second
  obtain ⟨hmodel, hitem⟩ := h
  simp only at hmodel hitem
  subst hmodel
  exact ⟨rfl, hitem⟩

/-- A successful rewriting keeps the models and their order. -/
theorem names_traverseModels {packages : Packages α} {f : ModelName → α → Except ε β}
    {packages' : Packages β} (done : packages.traverseModels f = .ok packages') :
    packages'.names = packages.names :=
  (map_eq_map_of_forall₂ ((forall₂_of_traverseModels done).imp fun _ _ h => h.1.symm)).symm

/-- A successful rewriting, seen from one model. -/
theorem model?_traverseModels {packages : Packages α} {f : ModelName → α → Except ε β}
    {packages' : Packages β} (done : packages.traverseModels f = .ok packages')
    (name : ModelName) :
    Option.Rel (fun item item' => f name item = .ok item') (packages.model? name)
      (packages'.model? name) := by
  have hpackage := OrderedMap.get?_traverse done name.package
  unfold model?
  generalize packages.get? name.package = models at hpackage ⊢
  generalize packages'.get? name.package = models' at hpackage ⊢
  cases hpackage with
  | none => exact Option.Rel.none
  | some hmodels => exact OrderedMap.get?_traverse hmodels name.model

/-- A model is still there after a successful rewriting. -/
theorem exists_model?_of_traverseModels {packages : Packages α}
    {f : ModelName → α → Except ε β} {packages' : Packages β}
    (done : packages.traverseModels f = .ok packages') {name : ModelName} {item : α}
    (found : packages.model? name = some item) :
    ∃ item', packages'.model? name = some item' ∧ f name item = .ok item' := by
  have hrel := model?_traverseModels done name
  rw [found] at hrel
  generalize packages'.model? name = image at hrel ⊢
  cases hrel with
  | some hitem => exact ⟨_, rfl, hitem⟩

/-- A rewriting of every model adds none. -/
theorem exists_of_model?_traverseModels {packages : Packages α}
    {f : ModelName → α → Except ε β} {packages' : Packages β}
    (done : packages.traverseModels f = .ok packages') {name : ModelName} {item' : β}
    (found : packages'.model? name = some item') :
    ∃ item, packages.model? name = some item ∧ f name item = .ok item' := by
  have hrel := model?_traverseModels done name
  rw [found] at hrel
  generalize packages.model? name = source at hrel ⊢
  cases hrel with
  | some hitem => exact ⟨_, rfl, hitem⟩

/-- A rewriting of every model fails at one of them. -/
theorem exists_model?_of_traverseModels_eq_error {packages : Packages α}
    {f : ModelName → α → Except ε β} {error : ε}
    (failed : packages.traverseModels f = .error error) :
    ∃ name item, packages.model? name = some item ∧ f name item = .error error := by
  obtain ⟨package, models, hpackage, hmodels⟩ := OrderedMap.exists_of_traverse_eq_error failed
  obtain ⟨model, item, hmodel, hitem⟩ := OrderedMap.exists_of_traverse_eq_error hmodels
  exact ⟨⟨package, model⟩, item, by rw [model?, hpackage, Option.bind_some, hmodel], hitem⟩

/-- A rewriting of every model fails for the faults of the models. -/
theorem traverseModels_failsExactly (packages : Packages α) {f : ModelName → α → Except ε β}
    {Fault : ModelName → α → ε → Prop}
    (each : ∀ name item, FailsExactly (f name item) (Fault name item)) :
    FailsExactly (packages.traverseModels f) fun error =>
      ∃ name item, packages.model? name = some item ∧ Fault name item error where
  fault error hfailed := by
    obtain ⟨name, item, hfound, hitem⟩ := exists_model?_of_traverseModels_eq_error hfailed
    exact ⟨name, item, hfound, (each name item).fault error hitem⟩
  sound packages' hdone error hfault := by
    obtain ⟨name, item, hfound, hitem⟩ := hfault
    obtain ⟨item', -, hok⟩ := exists_model?_of_traverseModels hdone hfound
    exact (each name item).sound item' hok error hitem

/-! ## Models told apart by dotted names -/

/-- No two models have the same dotted name. -/
def ToldApart (packages : Packages α) : Prop :=
  ∀ first ∈ packages.names, ∀ second ∈ packages.names,
    first.qualified = second.qualified → first = second

namespace ToldApart

variable {packages : Packages α}

/-- Whether dotted names tell models apart depends on the names only. -/
theorem of_names (apart : packages.ToldApart) {packages' : Packages β}
    (same : packages'.names = packages.names) : packages'.ToldApart := by
  unfold ToldApart
  rw [same]
  exact apart

/-- Dotted names that tell models apart do not repeat. -/
theorem nodup_qualified (apart : packages.ToldApart) :
    (packages.names.map ModelName.qualified).Nodup :=
  packages.nodup_names.map_on apart

end ToldApart

end SheetSchema.Packages
