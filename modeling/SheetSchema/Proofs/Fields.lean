import SheetSchema.Proofs.Packages

/-!
# Fields of all models

The fields of a schema stand in one list, model by model. A pass over the fields of every model goes
through this list: if it succeeds, every field has its image in the same place, and if it fails, it
does so at the first field that fails.
-/

namespace SheetSchema

variable {α β ε : Type}

/-! ## Errors -/

/-- The error of a computation, if it fails. -/
def error? : Except ε α → Option ε
  | .error error => some error
  | .ok _ => none

theorem error?_eq_some_iff {result : Except ε α} {error : ε} :
    error? result = some error ↔ result = .error error := by
  cases result <;> simp [error?]

theorem error?_eq_none_iff {result : Except ε α} :
    error? result = none ↔ ∃ value, result = .ok value := by
  cases result <;> simp [error?]

/-- A search through blocks is a search through their items. -/
theorem findSome?_flatMap (blocks : List α) (items : α → List β) {γ : Type} (f : β → Option γ) :
    (blocks.flatMap items).findSome? f = blocks.findSome? fun block => (items block).findSome? f := by
  induction blocks with
  | nil => rfl
  | cons block rest ih =>
    rw [List.flatMap_cons, List.findSome?_append, List.findSome?_cons, ih]
    cases (items block).findSome? f <;> rfl

namespace OrderedMap

/-- The first entry that fails gives the error of a pass. -/
theorem error?_traverseEntries (f : String → α → Except ε β) (entries : List (String × α)) :
    error? (traverseEntries f entries) = entries.findSome? fun entry => error? (f entry.1 entry.2) := by
  induction entries with
  | nil => rfl
  | cons entry rest ih =>
    rw [traverseEntries, List.findSome?_cons, ← ih]
    cases f entry.1 entry.2 with
    | error e => rfl
    | ok value => cases traverseEntries f rest <;> rfl

/-- The first value that fails is the error of a pass over a map. -/
theorem error?_traverse (map : OrderedMap α) (f : String → α → Except ε β) :
    error? (map.traverse f) = map.entries.findSome? fun entry => error? (f entry.1 entry.2) := by
  rw [← error?_traverseEntries, traverse]
  cases traverseEntries f map.entries <;> rfl

end OrderedMap

namespace Packages

/-! ## Fields in order -/

/-- All fields of all models, in order. -/
def fields (packages : Packages (OrderedMap α)) : List (FieldName × α) :=
  packages.models.flatMap fun (owner, fields) =>
    fields.entries.map fun (field, item) => (⟨owner, field⟩, item)

/-- The list of fields and the lookup of one agree. -/
theorem mem_fields_iff {packages : Packages (OrderedMap α)} {name : FieldName} {item : α} :
    (name, item) ∈ packages.fields ↔
      ∃ fields, packages.model? name.owner = some fields ∧ fields.get? name.field = some item := by
  unfold fields
  rw [List.mem_flatMap]
  constructor
  · intro h
    obtain ⟨⟨owner, fields⟩, hmodel, hitem⟩ := h
    obtain ⟨⟨field, found⟩, hfield, heq⟩ := List.mem_map.1 hitem
    obtain ⟨rfl, rfl⟩ := Prod.mk.inj heq
    exact ⟨fields, mem_models_iff.1 hmodel, OrderedMap.mem_entries_iff.1 hfield⟩
  · intro h
    obtain ⟨fields, hmodel, hfield⟩ := h
    refine ⟨(name.owner, fields), mem_models_iff.2 hmodel, ?_⟩
    exact List.mem_map.2 ⟨(name.field, item), OrderedMap.mem_entries_iff.2 hfield, rfl⟩

/-- A field is declared once. -/
theorem eq_of_mem_fields {packages : Packages (OrderedMap α)} {name : FieldName} {item item' : α}
    (one : (name, item) ∈ packages.fields) (other : (name, item') ∈ packages.fields) :
    item = item' := by
  obtain ⟨fields, hmodel, hitem⟩ := mem_fields_iff.1 one
  obtain ⟨fields', hmodel', hitem'⟩ := mem_fields_iff.1 other
  obtain rfl := Option.some.inj (hmodel.symm.trans hmodel')
  exact Option.some.inj (hitem.symm.trans hitem')

theorem fields_mapModels (packages : Packages (OrderedMap α)) (f : α → β) :
    fields (packages.mapModels fun _ fields => fields.map fun _ item => f item) =
      packages.fields.map fun entry => (entry.1, f entry.2) := by
  unfold fields
  rw [models_mapModels, List.flatMap_map, List.map_flatMap]
  refine List.flatMap_congr fun entry _ => ?_
  simp [OrderedMap.map, Function.comp_def]

/-! ## Passes over fields -/

/-- Apply a fallible function to every field in order. -/
def traverseFields (packages : Packages (OrderedMap α)) (f : FieldName → α → Except ε β) :
    Except ε (Packages (OrderedMap β)) :=
  packages.traverseModels fun owner fields => fields.traverse fun field item => f ⟨owner, field⟩ item

variable {packages : Packages (OrderedMap α)} {f : FieldName → α → Except ε β}

/-- Every field has its image in the same place. -/
theorem forall₂_of_traverseFields {packages' : Packages (OrderedMap β)}
    (done : packages.traverseFields f = .ok packages') :
    List.Forall₂ (fun entry entry' => entry'.1 = entry.1 ∧ f entry.1 entry.2 = .ok entry'.2)
      packages.fields packages'.fields := by
  refine List.rel_flatMap (forall₂_of_traverseModels done) ?_
  rintro ⟨owner, fields⟩ ⟨owner', fields'⟩ ⟨rfl, hfields⟩
  rw [List.forall₂_map_left_iff, List.forall₂_map_right_iff]
  refine (OrderedMap.forall₂_of_traverse hfields).imp ?_
  rintro ⟨field, item⟩ ⟨field', item'⟩ ⟨rfl, hitem⟩
  exact ⟨rfl, hitem⟩

/-- Over all packages and models the first field that fails gives the error. -/
theorem error?_traverseFields (packages : Packages (OrderedMap α))
    (f : FieldName → α → Except ε β) :
    error? (packages.traverseFields f) =
      packages.fields.findSome? fun entry => error? (f entry.1 entry.2) := by
  unfold traverseFields traverseModels fields models
  rw [OrderedMap.error?_traverse, findSome?_flatMap, findSome?_flatMap]
  refine congrArg (List.findSome? · packages.entries) (funext fun package => ?_)
  rw [OrderedMap.error?_traverse, List.findSome?_map]
  refine congrArg (List.findSome? · package.2.entries) (funext fun model => ?_)
  rw [OrderedMap.error?_traverse, Function.comp_apply, List.findSome?_map]
  rfl

/-- The error of a pass is that of the first field that fails. -/
theorem traverseFields_eq_error_iff {error : ε} :
    packages.traverseFields f = .error error ↔
      ∃ before name item after, packages.fields = before ++ (name, item) :: after ∧
        (∀ entry ∈ before, ∃ value, f entry.1 entry.2 = .ok value) ∧
        f name item = .error error := by
  rw [← error?_eq_some_iff, error?_traverseFields, List.findSome?_eq_some_iff]
  simp only [error?_eq_some_iff, error?_eq_none_iff, Prod.exists]
  constructor
  · intro h
    obtain ⟨before, name, item, after, hsplit, hfailed, hbefore⟩ := h
    exact ⟨before, name, item, after, hsplit, hbefore, hfailed⟩
  · intro h
    obtain ⟨before, name, item, after, hsplit, hbefore, hfailed⟩ := h
    exact ⟨before, name, item, after, hsplit, hfailed, hbefore⟩

end Packages

end SheetSchema
