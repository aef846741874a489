import SheetSchema.Extraction
import SheetSchema.Proofs.Every
import SheetSchema.Proofs.Runs
import SheetSchema.Schema.Basic
import SheetSchema.Workbook.Basic

/-!
# Cells of workbooks and raw schemas

A property of all cells of a workbook holds of all cells that extraction takes from it, as no cell
is made up on the way.
-/

namespace SheetSchema

variable {P : Cell → Prop}

/-! ## Every cell -/

/-- Every cell of a row has a property. -/
def Row.EveryCell (P : Cell → Prop) (row : Row) : Prop := row.Every P

/-- Every cell of a raw model has a property. -/
def RawModel.EveryCell (P : Cell → Prop) (fields : RawModel) : Prop :=
  fields.Every (Row.EveryCell P)

/-- Every cell of the models of a sheet has a property. -/
def RawPackage.EveryCell (P : Cell → Prop) (models : RawPackage) : Prop :=
  models.Every (RawModel.EveryCell P)

/-- Every cell of a raw schema has a property. -/
def RawSchema.EveryCell (P : Cell → Prop) (schema : RawSchema) : Prop :=
  schema.Every (RawPackage.EveryCell P)

/-- Every cell of an extraction has a property. -/
structure Extraction.EveryCell (P : Cell → Prop) (extraction : Extraction) : Prop where
  schema : RawSchema.EveryCell P extraction.schema
  partials : RawPackage.EveryCell P extraction.partials

/-- Every cell of a workbook has a property. -/
def Workbook.EveryCell (P : Cell → Prop) (workbook : Workbook) : Prop :=
  ∀ sheet ∈ workbook.sheets, ∀ row ∈ sheet.rows, Row.EveryCell P row

/-! ## Extraction -/

namespace Sheet.Reading

theorem everyCell_openModel {sheet : String} {number : Nat} {row : Row} {reading next : Reading}
    (every : RawPackage.EveryCell P reading.models)
    (opened : reading.openModel sheet number row = .ok next) :
    RawPackage.EveryCell P next.models := by
  unfold openModel at opened
  split at opened
  · obtain rfl := Except.ok.inj opened
    exact every
  · next model hmodel =>
    split at opened
    · obtain rfl := Except.ok.inj opened
      exact every.insert model OrderedMap.every_empty
    · contradiction

theorem everyCell_declareField {sheet : String} {number : Nat} {row : Row}
    {reading next : Reading} (every : RawPackage.EveryCell P reading.models)
    (cells : Row.EveryCell P row) (declared : reading.declareField sheet number row = .ok next) :
    RawPackage.EveryCell P next.models := by
  unfold declareField at declared
  split at declared
  · contradiction
  · next model hmodel =>
    split at declared
    · next field hfield =>
      obtain rfl := Except.ok.inj declared
      refine every.modify model fun fields hfields => ?_
      -- the fields are those of the open model, or none if the model is new
      have hopen : RawModel.EveryCell P (fields.getD OrderedMap.empty) := by
        cases fields with
        | none => exact OrderedMap.every_empty
        | some fields => exact hfields fields rfl
      exact hopen.insert field (cells.filter _)
    · split at declared
      · obtain rfl := Except.ok.inj declared
        exact every
      · contradiction

theorem everyCell_step {sheet : String} {reading next : Reading} {numbered : Nat × Row}
    (every : RawPackage.EveryCell P reading.models) (cells : Row.EveryCell P numbered.2)
    (done : step sheet reading numbered = .ok next) : RawPackage.EveryCell P next.models := by
  unfold step at done
  simp only at done
  split at done
  · obtain rfl := Except.ok.inj done
    exact every
  · obtain ⟨opened, hopened, hdeclared⟩ := bind_eq_ok_iff.1 done
    exact everyCell_declareField (everyCell_openModel every hopened) cells hdeclared

end Sheet.Reading

theorem Sheet.everyCell_models {sheet : Sheet} {models : RawPackage}
    (cells : ∀ row ∈ sheet.rows, Row.EveryCell P row) (read : sheet.models = .ok models) :
    RawPackage.EveryCell P models := by
  unfold Sheet.models at read
  obtain ⟨reading, hrun, rfl⟩ := map_eq_ok_iff.1 read
  have hstart : RawPackage.EveryCell P Reading.start.models := OrderedMap.every_empty
  refine invariant_of_foldlM (fun reading => RawPackage.EveryCell P (Reading.models reading)) ?_
    hstart hrun
  intro numbered hnumbered state next hstate hstep
  obtain ⟨⟨row, number⟩, hrow, rfl⟩ := List.mem_map.1 hnumbered
  have hmem : row ∈ sheet.rows := List.fst_mem_of_mem_zipIdx hrow
  exact Reading.everyCell_step hstate (cells row hmem) hstep

namespace Extraction

theorem everyCell_addSheet {extraction next : Extraction} {sheet : Sheet}
    (every : extraction.EveryCell P) (cells : ∀ row ∈ sheet.rows, Row.EveryCell P row)
    (added : extraction.addSheet sheet = .ok next) : next.EveryCell P := by
  unfold addSheet at added
  split at added
  · obtain ⟨models, hmodels, hrest⟩ := bind_eq_ok_iff.1 added
    have hcells := Sheet.everyCell_models cells hmodels
    split at hrest
    · obtain rfl := Except.ok.inj hrest
      exact ⟨every.schema, hcells⟩
    · obtain rfl := Except.ok.inj hrest
      exact ⟨every.schema.insert sheet.name hcells, every.partials⟩
  · obtain rfl := Except.ok.inj added
    exact every

/-- What holds of every cell of a workbook holds of every cell that is extracted. -/
theorem everyCell_ofWorkbook {workbook : Workbook} {extraction : Extraction}
    (cells : workbook.EveryCell P) (done : ofWorkbook workbook = .ok extraction) :
    extraction.EveryCell P := by
  have hstart : EveryCell P empty := ⟨OrderedMap.every_empty, OrderedMap.every_empty⟩
  refine invariant_of_foldlM (EveryCell P) ?_ hstart done
  intro sheet hsheet state next hstate hadded
  exact everyCell_addSheet hstate (cells sheet hsheet) hadded

end Extraction

end SheetSchema
