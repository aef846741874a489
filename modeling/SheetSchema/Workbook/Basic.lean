import SheetSchema.Error
import SheetSchema.Schema.Document

/-!
# Workbooks

Named sheets of rows in order. A row maps the columns that it fills to their cells. The JSON form
of a workbook maps sheet names to lists of rows.
-/

namespace SheetSchema

/-- Named list of rows. -/
structure Sheet where
  name : String
  rows : List Row

/-- A sheet declares models if its first row starts with the model column. -/
def Sheet.declaresModels (sheet : Sheet) : Bool :=
  match sheet.rows with
  | [] => false
  | row :: _ => row.keys.head? == some Names.modelColumn

/-- Sheets in order. -/
structure Workbook where
  sheets : List Sheet

namespace Workbook

/-- The first sheet of a name. -/
def sheet? (workbook : Workbook) (name : String) : Option Sheet :=
  workbook.sheets.find? fun sheet => sheet.name == name

/-- The workbook of a map from sheet names to rows. -/
def ofMap (sheets : OrderedMap (List Row)) : Workbook :=
  ⟨sheets.entries.map fun (name, rows) => ⟨name, rows⟩⟩

/-- Read a workbook from a JSON tree. -/
def ofJson? (json : Json) : Option Workbook :=
  (Json.map? (Json.list? (Row.ofJson? (Json.maximumDepth - 2))) json).map ofMap

/-- Read the JSON text of a workbook. -/
def ofJsonText (text : String) : Except Error Workbook :=
  match (Json.read? text).bind ofJson? with
  | some workbook => .ok workbook
  | none => .error .json

end Workbook

end SheetSchema
