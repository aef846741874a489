import SheetSchema.Proofs.Compilation.Rows
import SheetSchema.Proofs.Partials.Reach
import SheetSchema.Proofs.Schema.TypedDocument

/-!
# Compiled fields are restorable

Whatever columns the rows of an extraction have, no compiled field keeps one under the name of a
slot, and no slot is filled with a null. The cells of an extraction that is read from a text nest
no deeper than the document of the compiled schema allows.
-/

namespace SheetSchema

/-! ## Cells of an extraction that is read -/

theorem RawModel.fits_of_ofJson? {room : ℕ} {json : Json} {fields : RawModel}
    (read : RawModel.ofJson? (room + 2) json = some fields) :
    RawModel.EveryCell (Cell.Fits room) fields :=
  Json.every_of_map? read fun _ _ hrow =>
    Json.every_of_map? hrow fun json _ => Cell.fits_of_ofJson? json

theorem RawPackage.fits_of_ofJson? {room : ℕ} {json : Json} {models : RawPackage}
    (read : RawPackage.ofJson? (room + 3) json = some models) :
    RawPackage.EveryCell (Cell.Fits room) models :=
  Json.every_of_map? read fun _ _ => RawModel.fits_of_ofJson?

theorem RawSchema.fits_of_ofJson? {room : ℕ} {json : Json} {schema : RawSchema}
    (read : RawSchema.ofJson? (room + 4) json = some schema) :
    RawSchema.EveryCell (Cell.Fits room) schema :=
  Json.every_of_map? read fun _ _ => RawPackage.fits_of_ofJson?

theorem RawSchema.EveryCell.imp {P P' : Cell → Prop} {schema : RawSchema}
    (every : RawSchema.EveryCell P schema) (weaken : ∀ cell, P cell → P' cell) :
    RawSchema.EveryCell P' schema :=
  OrderedMap.Every.imp every fun _ hmodels => hmodels.imp fun _ hfields =>
    hfields.imp fun _ hrow => hrow.imp weaken

/-- The cells of partials may nest one level more than those of the schema, as a partial is in no
package. -/
theorem Extraction.fits_of_ofText {text : String} {extraction : Extraction}
    (read : ofText text = .ok extraction) : extraction.EveryCell (Cell.Fits 123) := by
  unfold ofText at read
  split at read
  · next extraction' hread =>
    obtain rfl := Except.ok.inj read
    obtain ⟨json, -, hjson⟩ := Option.bind_eq_some_iff.1 hread
    unfold ofJson? at hjson
    obtain ⟨slots, -, hslots⟩ := Option.bind_eq_some_iff.1 hjson
    split at hslots
    · next schema? partials? =>
      obtain ⟨schema, hschema, hrest⟩ := Option.bind_eq_some_iff.1 hslots
      obtain ⟨partials, hpartials, hdone⟩ := Option.bind_eq_some_iff.1 hrest
      obtain rfl := Option.some.inj hdone
      refine ⟨?_, ?_⟩
      · cases schema? with
        | none => contradiction
        | some json =>
          exact (RawSchema.fits_of_ofJson? hschema).imp fun _ hfits => hfits.mono (by decide)
      · cases partials? with
        | none => exact Option.some.inj hpartials ▸ OrderedMap.every_empty
        | some json => exact RawPackage.fits_of_ofJson? hpartials
    · contradiction
  · contradiction

/-! ## Inlining -/

/-- Inlining takes its cells from the model and from the partials. -/
theorem Partials.everyCell_inlineInto {P : Cell → Prop} {partials : Partials} {model : ModelName}
    {stack : List String} {fields result : RawModel} {rows : List (String × Row)}
    (inPartials : RawPackage.EveryCell P partials) (before : RawModel.EveryCell P fields)
    (own : ∀ entry ∈ rows, Row.EveryCell P entry.2)
    (done : partials.inlineInto model stack fields rows = .ok result) :
    RawModel.EveryCell P result := by
  induction stack, fields, rows using inlineInto.induct partials model generalizing result with
  | case1 stack fields =>
    rw [inlineInto_nil] at done
    exact Except.ok.inj done ▸ before
  | case2 stack fields field row rest plain ih =>
    rw [inlineInto_cons_of_none plain] at done
    obtain ⟨hrow, hrest⟩ := List.forall_mem_cons.1 own
    exact ih (before.insert field hrow) hrest done
  | case3 stack fields field row rest name stands entered =>
    rw [inlineInto_cons_of_mem stands entered] at done
    contradiction
  | case4 stack fields field row rest name stands fresh unknown =>
    rw [inlineInto_cons_of_unknown stands fresh unknown] at done
    contradiction
  | case5 stack fields field row rest name stands fresh inner known innerError hinner ih =>
    rw [inlineInto_cons_of_known stands fresh known, hinner] at done
    contradiction
  | case6 stack fields field row rest name stands fresh inner known fields' hinner ihInner ih =>
    -- the row that includes a partial is dropped, cells and all
    rw [inlineInto_cons_of_known stands fresh known, hinner] at done
    obtain ⟨-, hrest⟩ := List.forall_mem_cons.1 own
    have hinnerRows : RawModel.EveryCell P inner := OrderedMap.Every.get? inPartials known
    exact ih (ihInner before hinnerRows hinner) hrest done

/-- Inlining makes up no cells, so what holds of all cells stays true. -/
theorem Partials.everyCell_inlineSchema {P : Cell → Prop} {extraction : Extraction}
    {raw : RawSchema} (every : extraction.EveryCell P)
    (done : extraction.partials.inlineSchema extraction.schema = .ok raw) :
    RawSchema.EveryCell P raw := by
  refine OrderedMap.Every.traverse every.schema done fun package models models' hmodels hdone => ?_
  refine OrderedMap.Every.traverse hmodels hdone fun model fields fields' hfields hinlined => ?_
  exact everyCell_inlineInto every.partials OrderedMap.every_empty hfields hinlined

/-! ## Resolution -/

theorem SheetType.length?_lt {domain : SheetType} {length : ℕ}
    (default : domain.length? = some length) : length < 0x10000000000000000 := by
  cases domain <;> simp_all [SheetType.length?] <;> omega

namespace Typing

theorem length?_lt {cell : Cell} {length : ℕ} (read : length? cell = some length) :
    length < 0x10000000000000000 := by
  unfold length? unsignedSpan at read
  split at read
  · split at read
    · next hspan =>
      obtain rfl := Option.some.inj read
      omega
    · contradiction
  · contradiction

/-- A length that is read from a row fits into a machine word. -/
theorem lengthLimit_lt {field : FieldName} {row : Row} {limit : Option ℕ}
    (read : lengthLimit field row = .ok limit) {length : ℕ} (given : limit = some length) :
    length < 0x10000000000000000 := by
  unfold lengthLimit at read
  simp only at read
  split at read
  · obtain rfl := Except.ok.inj read
    contradiction
  · split at read
    · next hlength =>
      obtain rfl := Except.ok.inj read
      exact length?_lt (hlength.trans given)
    · contradiction

/-- The length of a resolved type, given or by default, fits into a machine word. -/
theorem length_lt_of_resolveType {registry : Registry} {field : FieldName} {row : Row}
    {target : TargetType} (resolved : resolveType registry field row = .ok (some target))
    {length : ℕ} (given : target.length = some length) : length < 0x10000000000000000 := by
  unfold resolveType at resolved
  split at resolved
  · simp at resolved
  · split at resolved
    · contradiction
    · next domain _ =>
      obtain ⟨limit, hlimit, hrest⟩ := bind_eq_ok_iff.1 resolved
      obtain ⟨type, -, hdone⟩ := bind_eq_ok_iff.1 hrest
      obtain rfl := Option.some.inj (Except.ok.inj hdone)
      rcases Option.or_eq_some_iff.1 given with hgiven | ⟨-, hdefault⟩
      · exact lengthLimit_lt hlimit hgiven
      · exact domain.length?_lt hdefault

/-- A resolved length fits into 64 bits, whether a column or the type gives it. -/
theorem length_lt_of_resolveField {registry : Registry} {owner : ModelName} {field : String}
    {row : Row} {resolution : FieldResolution}
    (resolved : resolveField registry owner field row = .ok resolution) {length : ℕ}
    (given : resolution.spec.length = some length) : length < 0x10000000000000000 := by
  unfold resolveField at resolved
  split at resolved
  · obtain rfl := Except.ok.inj resolved
    contradiction
  · split at resolved
    · obtain rfl := Except.ok.inj resolved
      contradiction
    · next target htarget =>
      obtain rfl := Except.ok.inj resolved
      exact length_lt_of_resolveType htarget given
    · obtain rfl := Except.ok.inj resolved
      contradiction
    · contradiction

end Typing

/-! ## Compiled fields -/

namespace TypedField

variable {room : ℕ} {row : Row} {field : TypedField}

/-- Lifting a row leaves out its reserved columns, and a blank default value. -/
theorem restorable_untyped (cells : Row.EveryCell (Cell.Fits room) row) :
    Restorable room (Typing.untyped row) where
  cells := cells.filter _
  free := by
    intro entry hentry
    have hkept := (List.mem_filter.1 hentry).2
    simpa using hkept
  default := by
    intro cell hcell
    obtain ⟨hfound, hfilled⟩ := Option.filter_eq_some_iff.1 hcell
    refine ⟨OrderedMap.Every.get? cells hfound, ?_⟩
    rintro rfl
    simp [Cell.isBlank] at hfilled
  length := by
    intro length hlength
    contradiction

/-- A type that is resolved changes neither columns nor the default value. -/
theorem restorable_resolved {owner : ModelName} {key : String}
    {resolution : Typing.FieldResolution} (cells : Row.EveryCell (Cell.Fits room) row)
    (resolved : Typing.resolveField .standard owner key row = .ok resolution) :
    Restorable room resolution.spec := by
  have huntyped := restorable_untyped cells
  obtain ⟨type, length, autoCreateTime, hspec, -⟩ := Typing.resolveField_eq_ok resolved
  have hlength : ∀ length, resolution.spec.length = some length → length < 0x10000000000000000 :=
    fun _ => Typing.length_lt_of_resolveField resolved
  rw [hspec] at hlength ⊢
  exact ⟨huntyped.cells, huntyped.free, huntyped.default, hlength⟩

theorem restorable_referenceField (owner target : ModelName) :
    Restorable room (Relations.referenceField owner target) where
  cells := OrderedMap.every_empty
  free := by
    intro entry hentry
    contradiction
  default := by
    intro cell hcell
    contradiction
  length := by
    intro length hlength
    contradiction

/-- The column that declares the type of an identifier bears no reserved name. -/
theorem restorable_identifierField (restorable : Restorable room field) :
    Restorable room (Relations.identifierField field) where
  cells := OrderedMap.Every.insert restorable.cells _ ⟨.text _, Nat.zero_le _⟩
  free := by
    intro entry hentry
    rcases OrderedMap.mem_insertEntry hentry with rfl | hmem
    · show Typing.typeColumn ∉ reservedColumns
      decide
    · exact restorable.free entry hmem
  default := restorable.default
  length := by
    intro length hlength
    contradiction

/-- Moving permissions leaves a field that can be restored. -/
theorem restorable_movePermissions (restorable : Restorable room field) :
    Restorable room field.movePermissions where
  cells := OrderedMap.Every.filter restorable.cells _
  free := fun entry hentry => restorable.free entry (List.mem_filter.1 hentry).1
  default := restorable.default
  length := restorable.length

end TypedField

namespace Compilation

/-- The fields that a row is compiled into are restorable. -/
theorem CompiledRow.restorable {room : ℕ} {owner : ModelName} {entry : String × Row}
    {block : List (String × TypedField)} (compiled : CompiledRow owner entry block)
    (cells : Row.EveryCell (Cell.Fits room) entry.2) :
    ∀ output ∈ block, output.2.Restorable room := by
  cases compiled with
  | field undotted resolved =>
    rw [List.forall_mem_singleton]
    exact TypedField.restorable_movePermissions (TypedField.restorable_resolved cells resolved)
  | relationship points =>
    refine List.forall_mem_cons.2 ⟨TypedField.restorable_referenceField owner _, ?_⟩
    rw [List.forall_mem_singleton]
    exact TypedField.restorable_movePermissions
      (TypedField.restorable_identifierField (TypedField.restorable_untyped cells))

/-- Every field of the compiled schema is restorable. -/
theorem restorable_schema {config : CompilerSettings} {extraction : Extraction}
    {compilation : Compilation} {room : ℕ} (cells : extraction.EveryCell (Cell.Fits room))
    (compiled : ofExtraction config extraction = .ok compilation) :
    TypedSchema.EveryField (TypedField.Restorable room) compilation.schema := by
  obtain ⟨raw, resolutions, expanded, hsteps, rfl⟩ := ofExtraction_eq_ok_iff.1 compiled
  have hraw := Partials.everyCell_inlineSchema cells hsteps.inlined
  intro package hpackage model hmodel output houtput
  have hfound := Packages.model?_of_mem hpackage hmodel
  -- the model has rows, and its fields are what they are compiled into
  obtain ⟨rows, hrows⟩ : ∃ rows, raw.model? ⟨package.1, model.1⟩ = some rows := by
    rw [← Packages.mem_names_iff, ← hsteps.names_schema config]
    exact Packages.mem_names_iff.2 ⟨model.2, hfound⟩
  obtain ⟨models, hmodels, hmodelRows⟩ := Option.bind_eq_some_iff.1 hrows
  have hcells : RawModel.EveryCell _ rows :=
    OrderedMap.Every.get? (OrderedMap.Every.get? hraw hmodels) hmodelRows
  obtain ⟨fields, blocks, hfields, hblocks, hentries⟩ := hsteps.rows config hrows
  obtain rfl : model.2 = fields := Option.some.inj (hfound.symm.trans hfields)
  rw [hentries, List.mem_flatten] at houtput
  obtain ⟨block, hblock, hmem⟩ := houtput
  obtain ⟨entry, hentry, hcompiled⟩ := exists_mem_of_forall₂ hblocks.flip hblock
  exact hcompiled.restorable (hcells entry hentry) output hmem

end Compilation

end SheetSchema
