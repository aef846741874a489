import SheetSchema.Proofs.Compilation.Columns
import SheetSchema.Proofs.Routes

/-!
# Routes and keys go back to rows

Markers of permissions and of the primary key go through every phase with their row. What the
routes and the manifest list at the end can be read off the inlined rows.
-/

namespace SheetSchema

/-- Whether a row grants an action to its field: a column is named after the action and says
`required` or `optional`. -/
def Row.grants (row : Row) (action : Action) : Bool :=
  row.entries.any fun (column, cell) =>
    isMarker action .required column cell || isMarker action .optional column cell

namespace Compilation

open Relations Typing

/-- The routes of a model list the fields that have a permission, and with that the rows that grant
one. -/
structure RoutesOf (rows : RawModel) (fields : TypedModel) (routes : Routes) : Prop where
  /-- An action lists the fields that have a permission for it, in their order. -/
  listed : ∀ action names, routes.get action = some names →
    names = (fields.entries.filter fun entry => (entry.2.api.get action).isSome).map Prod.fst
  /-- An action is left out if no field has a permission for it. -/
  absent : ∀ action, routes.get action = none ↔
    ∀ name field, fields.get? name = some field → field.api.get action = none
  /-- No field is listed twice. -/
  nodup : ∀ action names, routes.get action = some names → names.Nodup
  /-- The fields are those of the rows that grant the action, in the order of the rows. -/
  traced : ∀ action, (routes.get action).getD [] =
    (rows.entries.filter fun entry => Row.grants entry.2 action).map fun entry =>
      outputName entry.1
  /-- References are never listed. -/
  plain : ∀ action names, routes.get action = some names → ∀ name ∈ names,
    ∃ field, fields.get? name = some field ∧ field.isReference = false

/-! ## Rows and their fields -/

theorem isSome_marked?_iff {action : Action} {column : String} {cell : Cell} :
    (marked? action column cell).isSome = true ↔
      isMarker action .required column cell = true ∨
        isMarker action .optional column cell = true := by
  rw [marked?, List.find?_isSome]
  simp

/-- A row grants an action if it has a marker for it. -/
theorem isSome_getLast?_markers (row : Row) (action : Action) :
    (Row.markers row action).getLast?.isSome = Row.grants row action := by
  unfold Row.markers Row.grants
  rw [Bool.eq_iff_iff, List.getLast?_isSome, Ne, List.filterMap_eq_nil_iff, List.any_eq_true]
  constructor
  · intro h
    push Not at h
    obtain ⟨entry, hentry, hmarked⟩ := h
    refine ⟨entry, hentry, ?_⟩
    rw [Bool.or_eq_true]
    exact isSome_marked?_iff.1 (Option.isSome_iff_ne_none.2 hmarked)
  · intro h hnone
    obtain ⟨entry, hentry, hmarker⟩ := h
    rw [Bool.or_eq_true] at hmarker
    have hsome := isSome_marked?_iff.2 hmarker
    have hnone' : marked? action entry.1 entry.2 = none := hnone entry hentry
    rw [hnone'] at hsome
    contradiction

variable {entry : String × Row} {block : List (String × TypedField)}

/-- A selection that is decided by the row, and that no reference is in, selects the field into
which the row goes. -/
theorem TranslatedRow.map_filter (translated : TranslatedRow entry block)
    (choose : TypedField → Bool) (keep : Row → Bool)
    (decided : ∀ row columns field, FieldOf row columns field → choose field = keep row)
    (reference : ∀ field, EmptyReference field → choose field = false) :
    (block.filter fun output => choose output.2).map Prod.fst =
      if keep entry.2 = true then [outputName entry.1] else [] := by
  cases translated with
  | @field key row field undotted carried =>
    rw [outputName_of_notMem undotted, ← decided _ _ _ carried]
    cases h : choose field <;> simp [h]
  | @relationship target row half identifier package model refers carried =>
    -- of the two halves only the identifier can be selected
    have hhalf : choose half = false := reference half refers
    rw [outputName_qualified package, ← decided _ _ _ carried]
    cases h : choose identifier <;> simp [h, hhalf]

/-- The field of a row that grants an action is listed, and nothing else. -/
theorem TranslatedRow.listed (action : Action) (translated : TranslatedRow entry block) :
    (block.filter fun output => (output.2.api.get action).isSome).map Prod.fst =
      if Row.grants entry.2 action = true then [outputName entry.1] else [] := by
  refine translated.map_filter (fun field => (field.api.get action).isSome)
    (fun row => Row.grants row action) ?_ ?_
  · intro row columns field carried
    show (field.api.get action).isSome = _
    rw [carried.api, isSome_getLast?_markers]
  · intro field refers
    show (field.api.get action).isSome = _
    rw [refers.api]
    cases action <;> rfl

/-- The field of a row with a key marker is a key field, and nothing else. -/
theorem TranslatedRow.keyed (translated : TranslatedRow entry block) :
    (block.filter fun output => output.2.primaryKey).map Prod.fst =
      if isSet entry.2 primaryColumn = true then [outputName entry.1] else [] :=
  translated.map_filter (fun field => field.primaryKey) (fun row => isSet row primaryColumn)
    (fun _ _ _ carried => carried.primaryKey) fun _ refers => refers.primaryKey

/-- A field with a permission is no reference. -/
theorem TranslatedRow.plain (translated : TranslatedRow entry block)
    {output : String × TypedField} (member : output ∈ block) {action : Action}
    (permitted : (output.2.api.get action).isSome = true) : output.2.isReference = false := by
  cases translated with
  | field undotted carried =>
    rw [List.mem_singleton.1 member]
    exact carried.plain
  | relationship package model refers carried =>
    rcases List.mem_cons.1 member with rfl | hmem
    · rw [refers.api] at permitted
      cases action <;> contradiction
    · rw [List.mem_singleton.1 hmem]
      exact carried.plain

/-! ## Models -/

section

variable {rows : RawModel} {fields : TypedModel} {blocks : List (List (String × TypedField))}

/-- The routes of a translated model go back to its rows. -/
theorem routesOf_translated (translated : List.Forall₂ TranslatedRow rows.entries blocks)
    (joined : fields.entries = blocks.flatten) :
    RoutesOf rows fields (TypedModel.routes fields) where
  listed := fun _ _ hnames => TypedModel.eq_namesUnder_of_get_routes hnames
  absent := fun _ => TypedModel.get_routes_eq_none_iff
  nodup := by
    intro action names hnames
    rw [TypedModel.eq_namesUnder_of_get_routes hnames]
    exact TypedModel.nodup_namesUnder fields action
  traced := by
    intro action
    rw [TypedModel.getD_get_routes, TypedModel.namesUnder, joined]
    exact map_filter_flatten translated fun _ _ hrow => hrow.listed action
  plain := by
    intro action names hnames name hname
    rw [TypedModel.eq_namesUnder_of_get_routes hnames] at hname
    obtain ⟨field, hfield, hsome⟩ := TypedModel.mem_namesUnder_iff.1 hname
    -- go back from the field to its block, and from the block to its row
    have hmem : (name, field) ∈ blocks.flatten := joined ▸ OrderedMap.mem_entries_iff.2 hfield
    obtain ⟨block, hblock, houtput⟩ := List.mem_flatten.1 hmem
    have hflip : List.Forall₂ (fun block entry => TranslatedRow entry block) blocks rows.entries :=
      List.Forall₂.flip translated
    obtain ⟨_, -, hrow⟩ := exists_mem_of_forall₂ hflip hblock
    exact ⟨field, hfield, hrow.plain houtput hsome⟩

/-- The primary key of a translated model goes back to its rows. -/
theorem primaryKey_translated (translated : List.Forall₂ TranslatedRow rows.entries blocks)
    (joined : fields.entries = blocks.flatten) :
    TypedModel.primaryKey fields =
      (rows.entries.filter fun entry => isSet entry.2 primaryColumn).map fun entry =>
        outputName entry.1 := by
  show (fields.entries.filter fun entry => entry.2.primaryKey).map Prod.fst = _
  rw [joined]
  exact map_filter_flatten translated fun _ _ hrow => hrow.keyed

end

/-- The routes of every compiled model list the fields of the rows that grant an action, in order,
and the primary key of a model told apart from the others those of the rows that are in the key. -/
theorem routes_of_extraction {config : CompilerSettings} {extraction : Extraction}
    {compilation : Compilation} (compiled : ofExtraction config extraction = .ok compilation) :
    ∃ raw, extraction.partials.inlineSchema extraction.schema = .ok raw ∧
      compilation.schema.names = raw.names ∧ compilation.routes.names = raw.names ∧
      ∀ owner rows, raw.model? owner = some rows →
        ∃ fields routes, compilation.schema.model? owner = some fields ∧
          compilation.routes.model? owner = some routes ∧ RoutesOf rows fields routes ∧
          ((∀ other ∈ compilation.schema.names, other.qualified = owner.qualified →
              other = owner) →
            ∃ entry, compilation.manifest.models.get? owner.qualified = some entry ∧
              entry.name = owner ∧
              entry.primaryKey =
                (rows.entries.filter fun entry => isSet entry.2 primaryColumn).map fun entry =>
                  outputName entry.1) := by
  obtain ⟨raw, resolutions, expanded, hsteps, rfl⟩ := ofExtraction_eq_ok_iff.1 compiled
  have hderived := derived_assemble config resolutions expanded
  have hnames := hsteps.names_schema config
  refine ⟨raw, hsteps.inlined, hnames, hderived.names_routes.trans hnames, ?_⟩
  intro owner rows hrows
  obtain ⟨fields, blocks, hfields, hblocks, hentries⟩ := hsteps.translated config hrows
  refine ⟨fields, TypedModel.routes fields, hfields, ?_, routesOf_translated hblocks hentries, ?_⟩
  · rw [hderived.model?_routes, hfields]
    rfl
  · intro halone
    exact ⟨_, hderived.get?_manifest hfields halone, rfl, primaryKey_translated hblocks hentries⟩

/-- The routes of orders of the shop list the fields of the rows that grant an action, and orders
are keyed by their identifier alone. -/
theorem routes_of_shop :
    ∃ compilation fields routes entry,
      ofExtraction (.ofModulePath "example.com/app") Shop.extraction = .ok compilation ∧
        compilation.schema.model? ⟨"shop.eu", "Order"⟩ = some fields ∧
        compilation.routes.model? ⟨"shop.eu", "Order"⟩ = some routes ∧
        RoutesOf Shop.order fields routes ∧
        compilation.manifest.models.get? "shop.eu.Order" = some entry ∧
        entry.primaryKey = ["id"] := by
  obtain ⟨compilation, hcompiled⟩ := Shop.compiles (.ofModulePath "example.com/app")
  obtain ⟨raw, hraw, hnames, -, hmodels⟩ := routes_of_extraction hcompiled
  rw [Shop.inlineSchema_extraction, Except.ok.injEq] at hraw
  subst hraw
  obtain ⟨fields, routes, hfields, hroutes, hlisted, hkeyed⟩ :=
    hmodels ⟨"shop.eu", "Order"⟩ Shop.order (by rfl)
  have halone : ∀ other ∈ compilation.schema.names,
      other.qualified = "shop.eu.Order" → other = ⟨"shop.eu", "Order"⟩ := by
    rw [hnames]
    decide +kernel
  obtain ⟨entry, hentry, -, hkey⟩ := hkeyed halone
  refine ⟨compilation, fields, routes, entry, hcompiled, hfields, hroutes, hlisted, hentry, ?_⟩
  rw [hkey]
  decide +kernel

end Compilation

end SheetSchema
