import SheetSchema.Proofs.Packages
import SheetSchema.Proofs.Partials.Reach

/-!
# Flattening

The flattening of some rows has the rows themselves where they declare fields, and in the place of a
row that stands for a partial the flattening of the fields of that partial. Inlining writes the
flattening into an empty map, so a repeated field keeps its first place and takes its last row, and
no field that stands for a partial is left.
-/

namespace SheetSchema

/-- A field stands for no partial if its name does not start with the mark. -/
theorem partialName?_eq_none_iff {field : String} :
    partialName? field = none ↔ ¬ Names.partialMark.toList <+: field.toList := by
  constructor
  · intro hnone hmark
    obtain ⟨rest, hrest⟩ := hmark
    have hfield : field = Names.partialMark ++ String.ofList rest := by
      rw [← String.toList_inj, String.toList_append, String.toList_ofList, hrest]
    rw [partialName?_eq_some_iff.2 hfield] at hnone
    contradiction
  · intro hmark
    cases hname : partialName? field with
    | none => rfl
    | some name =>
      have hfield := partialName?_eq_some_iff.1 hname
      rw [hfield, String.toList_append] at hmark
      exact absurd (List.prefix_append _ _) hmark

namespace Partials

variable {partials : Partials} {rows : List (String × Row)}

/-! ## The flattening of rows -/

/-- One list of rows is the depth-first flattening of another. -/
inductive Flattens (partials : Partials) : List (String × Row) → List (String × Row) → Prop
  | nil : Flattens partials [] []
  /-- A row that declares a field stays. -/
  | field {field : String} {row : Row} {rows flat : List (String × Row)}
      (plain : partialName? field = none) (rest : Flattens partials rows flat) :
      Flattens partials ((field, row) :: rows) ((field, row) :: flat)
  /-- A row that stands for a partial gives way to the flattening of the fields of the partial. -/
  | reference {field name : String} {row : Row} {inner : RawModel}
      {rows block flat : List (String × Row)} (stands : partialName? field = some name)
      (known : partials.get? name = some inner) (inside : Flattens partials inner.entries block)
      (rest : Flattens partials rows flat) :
      Flattens partials ((field, row) :: rows) (block ++ flat)

/-- Rows have at most one flattening. -/
theorem Flattens.unique {flat other : List (String × Row)} (first : partials.Flattens rows flat)
    (second : partials.Flattens rows other) : flat = other := by
  induction first generalizing other with
  | nil =>
    cases second
    rfl
  | field plain _ ih =>
    cases second with
    | field _ rest => rw [ih rest]
    | reference stands =>
      rw [plain] at stands
      contradiction
  | reference stands known _ _ ihInside ihRest =>
    cases second with
    | field plain =>
      rw [stands] at plain
      contradiction
    | reference stands' known' inside rest =>
      rw [stands, Option.some.injEq] at stands'
      subst stands'
      rw [known, Option.some.injEq] at known'
      subst known'
      rw [ihInside inside, ihRest rest]

/-- In a flattening no row stands for a partial. -/
theorem Flattens.plain {flat : List (String × Row)} (flattens : partials.Flattens rows flat) :
    ∀ entry ∈ flat, partialName? entry.1 = none := by
  induction flattens with
  | nil => simp
  | field plain _ ih =>
    intro entry hentry
    rcases List.mem_cons.1 hentry with rfl | hrest
    · exact plain
    · exact ih entry hrest
  | reference _ _ _ _ ihInside ihRest =>
    intro entry hentry
    rcases List.mem_append.1 hentry with hinside | hrest
    · exact ihInside entry hinside
    · exact ihRest entry hrest

/-! ## Inlining writes the flattening -/

/-- Where inlining succeeds it writes the flattening of the rows, first to last. -/
theorem exists_flattens_of_inlineInto {model : ModelName} {stack : List String}
    {fields result : RawModel}
    (done : partials.inlineInto model stack fields rows = .ok result) :
    ∃ flat, partials.Flattens rows flat ∧
      result = flat.foldl (fun fields entry => fields.insert entry.1 entry.2) fields := by
  induction stack, fields, rows using inlineInto.induct partials model generalizing result with
  | case1 stack fields =>
    rw [inlineInto_nil, Except.ok.injEq] at done
    exact ⟨[], .nil, done.symm⟩
  | case2 stack fields field row rest plain ih =>
    rw [inlineInto_cons_of_none plain] at done
    obtain ⟨flat, hflat, hresult⟩ := ih done
    exact ⟨(field, row) :: flat, .field plain hflat, hresult⟩
  | case3 stack fields field row rest name stands entered =>
    rw [inlineInto_cons_of_mem stands entered] at done
    contradiction
  | case4 stack fields field row rest name stands fresh unknown =>
    rw [inlineInto_cons_of_unknown stands fresh unknown] at done
    contradiction
  | case5 stack fields field row rest name stands fresh inner known error hinner =>
    rw [inlineInto_cons_of_known stands fresh known, hinner] at done
    contradiction
  | case6 stack fields field row rest name stands fresh inner known fields' hinner ih ihRest =>
    rw [inlineInto_cons_of_known stands fresh known, hinner] at done
    obtain ⟨block, hblock, hfields⟩ := ih hinner
    obtain ⟨flat, hflat, hresult⟩ := ihRest done
    -- the rows of the partial are written before those that follow it
    refine ⟨block ++ flat, .reference stands known hblock hflat, ?_⟩
    rw [List.foldl_append, ← hfields]
    exact hresult

theorem exists_flattens_of_inlineModel {model : ModelName} {rows fields : RawModel}
    (done : partials.inlineModel model rows = .ok fields) :
    ∃ flat, partials.Flattens rows.entries flat ∧ fields = .ofList flat :=
  exists_flattens_of_inlineInto done

/-! ## Whole schemas -/

/-- What inlining makes of a schema. -/
structure Inlines (partials : Partials) (schema inlined : RawSchema) : Prop where
  /-- Packages stay in their order. -/
  packages : inlined.keys = schema.keys
  /-- So do the models of each package. -/
  models : ∀ package,
    (inlined.get? package).map OrderedMap.keys = (schema.get? package).map OrderedMap.keys
  /-- The fields of a model are its flattening, written into an empty map: the first row for a name
  gives its place and the last one counts. -/
  fields : ∀ owner rows, schema.model? owner = some rows →
    ∃ flat fields, (∀ other, partials.Flattens rows.entries other ↔ other = flat) ∧
      inlined.model? owner = some fields ∧ fields = .ofList flat ∧
      fields.keys = (flat.map Prod.fst).eraseDups ∧
      ∀ field, fields.get? field = flat.reverse.lookup field
  /-- No field that stands for a partial is left. -/
  plain : ∀ owner fields, inlined.model? owner = some fields →
    ∀ field ∈ fields.keys, ¬ Names.partialMark.toList <+: field.toList
  /-- So there is nothing more to inline, whatever the partials are. -/
  settled : ∀ others : Partials, others.inlineSchema inlined = .ok inlined

/-- A schema can be inlined exactly if everything that its models reach exists and does not include
itself. -/
theorem exists_inlineSchema_iff (partials : Partials) (schema : RawSchema) :
    (∃ inlined, partials.inlineSchema schema = .ok inlined) ↔
      ∀ owner rows, schema.model? owner = some rows → ∀ name,
        partials.Reaches rows.entries name → name ∈ partials.keys ∧ ¬ partials.Circular name := by
  have hexactly := Packages.traverseModels_failsExactly schema fun owner rows =>
    partials.inlineModel_failsExactly owner rows
  refine hexactly.exists_ok_iff.trans ?_
  constructor
  · intro hnone owner rows hrows name hreached
    refine ⟨?_, fun hcircular => ?_⟩
    · by_contra hunknown
      exact hnone _ ⟨owner, rows, hrows, .unresolved hreached hunknown⟩
    · exact hnone _ ⟨owner, rows, hrows,
        .circular hreached hcircular (List.mem_singleton_self name)⟩
  · intro hresolved error hfault
    obtain ⟨owner, rows, hrows, hfault⟩ := hfault
    cases hfault with
    | unresolved reached unknown => exact unknown (hresolved owner rows hrows _ reached).1
    | circular reached circular _ => exact (hresolved owner rows hrows _ reached).2 circular

theorem plain_of_inlineSchema {schema inlined : RawSchema}
    (done : partials.inlineSchema schema = .ok inlined) {owner : ModelName} {fields : RawModel}
    (found : inlined.model? owner = some fields) :
    ∀ field ∈ fields.keys, partialName? field = none := by
  obtain ⟨rows, -, hfields⟩ := Packages.exists_of_model?_traverseModels done found
  obtain ⟨flat, hflat, rfl⟩ := exists_flattens_of_inlineModel hfields
  intro field hfield
  obtain ⟨entry, hentry, rfl⟩ := List.mem_map.1 (OrderedMap.mem_keys_ofList.1 hfield)
  exact hflat.plain entry hentry

/-- A model of a schema is inlined into its only flattening, written into an empty map. -/
theorem exists_flattens_of_inlineSchema {schema inlined : RawSchema}
    (done : partials.inlineSchema schema = .ok inlined) {owner : ModelName} {rows : RawModel}
    (found : schema.model? owner = some rows) :
    ∃ flat, (∀ other, partials.Flattens rows.entries other ↔ other = flat) ∧
      inlined.model? owner = some (.ofList flat) := by
  obtain ⟨fields, hfound, hfields⟩ := Packages.exists_model?_of_traverseModels done found
  obtain ⟨flat, hflat, rfl⟩ := exists_flattens_of_inlineModel hfields
  refine ⟨flat, fun other => ⟨fun hother => hother.unique hflat, ?_⟩, hfound⟩
  rintro rfl
  exact hflat

/-- An inlined schema has nothing left to inline, whatever the partials are. -/
theorem inlineSchema_of_inlined {schema inlined : RawSchema}
    (done : partials.inlineSchema schema = .ok inlined) (others : Partials) :
    others.inlineSchema inlined = .ok inlined := by
  refine inlineSchema_of_plain fun package hpackage model hmodel row hrow => ?_
  have hfound := Packages.model?_of_mem hpackage hmodel
  exact plain_of_inlineSchema done hfound row.1 (List.mem_map_of_mem hrow)

theorem inlines_of_inlineSchema {schema inlined : RawSchema}
    (done : partials.inlineSchema schema = .ok inlined) : partials.Inlines schema inlined where
  packages := OrderedMap.keys_of_traverse done
  models := by
    intro package
    have hrel := OrderedMap.get?_traverse done package
    generalize schema.get? package = models at hrel ⊢
    generalize inlined.get? package = models' at hrel ⊢
    cases hrel with
    | none => rfl
    | some hmodels => exact congrArg some (OrderedMap.keys_of_traverse hmodels)
  fields := by
    intro owner rows hrows
    obtain ⟨flat, hflat, hfound⟩ := exists_flattens_of_inlineSchema done hrows
    exact ⟨flat, _, hflat, hfound, rfl, OrderedMap.keys_ofList flat, OrderedMap.get?_ofList flat⟩
  plain := by
    intro owner fields hfound field hfield
    exact partialName?_eq_none_iff.1 (plain_of_inlineSchema done hfound field hfield)
  settled := inlineSchema_of_inlined done

/-- Inlining succeeds exactly where all partials that are reached exist and none of them includes
itself, and then it writes the flattening of every model and leaves nothing to inline. -/
theorem inlines_where_partials_resolve (partials : Partials) (schema : RawSchema) :
    ((∃ inlined, partials.inlineSchema schema = .ok inlined) ↔
        ∀ owner rows, schema.model? owner = some rows → ∀ name,
          partials.Reaches rows.entries name →
            name ∈ partials.keys ∧ ¬ partials.Circular name) ∧
      ∀ inlined, partials.inlineSchema schema = .ok inlined →
        partials.Inlines schema inlined :=
  ⟨exists_inlineSchema_iff partials schema, fun _ => inlines_of_inlineSchema⟩

end Partials

end SheetSchema
