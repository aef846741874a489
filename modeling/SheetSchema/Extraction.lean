import SheetSchema.Text.Identifier
import SheetSchema.Workbook.Basic

/-!
# Extraction

A model sheet is read row by row. A row with a model cell opens that model, and every row declares
a field of the open model: its remaining cells. Opening a model again starts it anew, and of
several rows for one field the last counts. Every model sheet is a package, but for the sheet of
partials; other sheets are passed over. Rows are numbered as in a spreadsheet, the header being
row 1.
-/

namespace SheetSchema

/-! ## Rows -/

namespace Row

/-- Whether every cell is blank. -/
def isBlank (row : Row) : Bool := row.values.all Cell.isBlank

/-- The model that a row opens. -/
def model? (row : Row) : Option String := (row.get? Names.modelColumn).bind Cell.text?

/-- The field that a row declares. -/
def field? (row : Row) : Option String := (row.get? Names.fieldColumn).bind Cell.text?

/-- Cells of a row beside those that name its model and field. -/
def details (row : Row) : Row :=
  row.filter fun column _ => column != Names.modelColumn && column != Names.fieldColumn

end Row

/-! ## Sheets -/

namespace Sheet

/-- Models read so far, and the one that is open. -/
structure Reading where
  models : RawPackage
  current : Option String

/-- Before the first row. -/
def Reading.start : Reading := ⟨OrderedMap.empty, none⟩

/-- Open the model of a row, if the row names one. -/
def Reading.openModel (sheet : String) (number : Nat) (row : Row) (reading : Reading) :
    Except Error Reading :=
  match Row.model? row with
  | none => .ok reading
  | some model =>
    if Text.isIdentifier model then
      .ok ⟨reading.models.insert model OrderedMap.empty, some model⟩
    else .error (.modelNotIdentifier sheet number model)

/-- Declare the field of a row in the open model. A row without a field must open a model. -/
def Reading.declareField (sheet : String) (number : Nat) (row : Row) (reading : Reading) :
    Except Error Reading :=
  match reading.current with
  | none => .error (.rowBeforeModel sheet number)
  | some model =>
    match Row.field? row with
    | some field =>
      .ok { reading with
        models := reading.models.modify model fun fields =>
          (fields.getD OrderedMap.empty).insert field (Row.details row) }
    | none =>
      if (Row.model? row).isSome then .ok reading else .error (.rowWithoutField sheet number)

/-- Read one row. -/
def Reading.step (sheet : String) (reading : Reading) (numbered : Nat × Row) :
    Except Error Reading :=
  let (number, row) := numbered
  if Row.isBlank row then .ok reading
  else do (← reading.openModel sheet number row).declareField sheet number row

/-- Rows with their numbers, from the one below the header. -/
def numberedRows (sheet : Sheet) : List (Nat × Row) :=
  (sheet.rows.zipIdx 2).map fun (row, number) => (number, row)

/-- Models that a sheet declares. -/
def models (sheet : Sheet) : Except Error RawPackage :=
  (sheet.numberedRows.foldlM (Reading.step sheet.name) Reading.start).map Reading.models

/-- Warnings about names of fields that are neither identifiers nor relationships. -/
def warnings (sheet : Sheet) : List Warning :=
  sheet.numberedRows.filterMap fun (number, row) =>
    if Row.isBlank row then none
    else
      match Row.field? row with
      | some field =>
        if Text.isIdentifier field || field.toList.contains '.' then none
        else some (.fieldNotIdentifier sheet.name number field)
      | none => none

end Sheet

/-! ## Workbooks -/

namespace Extraction

/-- The extraction of a workbook without model sheets. -/
def empty : Extraction := ⟨OrderedMap.empty, OrderedMap.empty⟩

/-- Add the models of a sheet. -/
def addSheet (extraction : Extraction) (sheet : Sheet) : Except Error Extraction :=
  if sheet.declaresModels then do
    let models ← sheet.models
    if sheet.name = Names.partialsSheet then .ok { extraction with partials := models }
    else .ok { extraction with schema := extraction.schema.insert sheet.name models }
  else .ok extraction

/-- What the model sheets of a workbook declare; the first error in sheet order wins. -/
def ofWorkbook (workbook : Workbook) : Except Error Extraction :=
  workbook.sheets.foldlM addSheet empty

end Extraction

/-- Warnings about the model sheets of a workbook. -/
def Workbook.warnings (workbook : Workbook) : List Warning :=
  (workbook.sheets.filter Sheet.declaresModels).flatMap Sheet.warnings

end SheetSchema
