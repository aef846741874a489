import SheetSchema.Workbook.Basic

/-!
# Spreadsheets

Sheets as a spreadsheet stores them: a grid of typed cells whose first row is the header. A column
takes its name from the header and is passed over if that is blank. Empty cells, blank text and
cell errors fill nothing, and rows that fill nothing are dropped. Of several columns of one name
the last one that a row fills counts.
-/

namespace SheetSchema

/-- Error value of a spreadsheet cell. -/
inductive CellError where
  | divisionByZero
  | notAvailable
  | name
  | null
  | number
  | reference
  | value
deriving DecidableEq

namespace CellError

/-- All error values. -/
def all : List CellError :=
  [divisionByZero, notAvailable, name, null, number, reference, value]

/-- Text in the cell. -/
def text : CellError → String
  | divisionByZero => "#DIV/0!"
  | notAvailable => "#N/A"
  | name => "#NAME?"
  | null => "#NULL!"
  | number => "#NUM!"
  | reference => "#REF!"
  | value => "#VALUE!"

/-- Short name in warnings. -/
def label : CellError → String
  | divisionByZero => "Div0"
  | notAvailable => "NA"
  | name => "Name"
  | null => "Null"
  | number => "Num"
  | reference => "Ref"
  | value => "Value"

/-- The error value with a text. -/
def ofText? (text : String) : Option CellError := all.find? fun error => error.text == text

end CellError

/-- Cell of a grid. -/
inductive GridCell where
  | empty
  | text (value : String)
  | number (value : Binary64)
  | bool (value : Bool)
  | error (kind : CellError)
  /-- A date as the number of days since the epoch of the spreadsheet. -/
  | date (serial : Binary64)
  /-- A date or duration as text. -/
  | dateText (value : String)
deriving DecidableEq

namespace GridCell

/-- Text of a cell that stands in the header. -/
def title : GridCell → String
  | empty => ""
  | text value => value
  | number value => value.toPlainText
  | bool true => "true"
  | bool false => "false"
  | error kind => kind.text
  | date serial => serial.toPlainText
  | dateText value => value

/-- Name of the column below a header cell. -/
def column? (cell : GridCell) : Option String := Text.trimmed? cell.title

/-- A number as a cell: whole numbers below `2 ^ 63` become integers, and numbers that are not
finite fill nothing. -/
def numberCell? (x : Binary64) : Option Cell :=
  let number? :=
    if x.isFinite && x.isWhole && x.truncate.natAbs < 0x8000000000000000 then
      Cell.Number.ofInt? x.truncate
    else Cell.Number.ofReal? x
  number?.map Cell.number

/-- What a cell fills its column with. -/
def cell? : GridCell → Option Cell
  | empty => none
  | text value => (Text.trimmed? value).map Cell.text
  | number value => numberCell? value
  | bool value => some (.bool value)
  | error _ => none
  | date serial => (Cell.Number.ofReal? serial).map Cell.number
  | dateText value => some (.text value)

end GridCell

/-- Named grid of cells. -/
structure Grid where
  name : String
  rows : List (List GridCell)

namespace Grid

/-- The grid without the empty rows above its first cell. -/
def crop (grid : Grid) : Grid :=
  { grid with rows := grid.rows.dropWhile fun cells => cells.all fun cell => cell == .empty }

/-- Cells below named columns, with the names. -/
def namedCells (header cells : List GridCell) : List (String × GridCell) :=
  (header.zip cells).filterMap fun (title, cell) =>
    title.column?.map fun column => (column, cell)

/-- The row that cells below a header fill. -/
def row (header cells : List GridCell) : Row :=
  .ofList ((namedCells header cells).filterMap fun (column, cell) =>
    cell.cell?.map fun value => (column, value))

/-- Rows below the header. -/
def dataRows : List (List GridCell) → List Row
  | [] => []
  | header :: rows => (rows.map (row header)).filter fun row => row.size != 0

/-- The sheet of a grid whose first row is the header. -/
def sheet (grid : Grid) : Sheet := ⟨grid.name, dataRows grid.rows⟩

/-- Warnings about errors in cells of one row. -/
def rowWarnings (sheet : String) (header cells : List GridCell) : List Warning :=
  (namedCells header cells).filterMap fun (column, cell) =>
    match cell with
    | .error error => some (.cellError sheet column error.label)
    | _ => none

/-- Warnings about errors in cells. -/
def warnings (grid : Grid) : List Warning :=
  match grid.rows with
  | [] => []
  | header :: rows => rows.flatMap (rowWarnings grid.name header)

end Grid

/-- The workbook of a spreadsheet. -/
def Workbook.ofGrids (grids : List Grid) : Workbook := ⟨grids.map Grid.sheet⟩

/-! ## Files of spreadsheet programs -/

/-- What a reader finds in the file of a spreadsheet program: named sheets in order, each with its
rows from the header on, unless they cannot be read. -/
abbrev Spreadsheet := List (String × Option (List (List GridCell)))

/-- Grids of a spreadsheet; the first sheet that cannot be read is an error. -/
def Spreadsheet.grids (spreadsheet : Spreadsheet) : Except Error (List Grid) :=
  spreadsheet.mapM fun (name, rows?) =>
    match rows? with
    | some rows => .ok ⟨name, rows⟩
    | none => .error (.sheetUnread name)

end SheetSchema
