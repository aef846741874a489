import SheetSchema.Compilation
import SheetSchema.Settings.Project
import SheetSchema.Documents
import SheetSchema.Workbook.Yaml

/-!
# Loading and saving

Where workbooks, settings, extractions and compilations are kept. The extension of a workbook's
path tells its format. Nothing is written for an extraction or compilation that fails.
-/

namespace SheetSchema

open Files

variable {m : Type → Type} {Staged : Type} [Monad m] [Files m Staged]

/-! ## Settings -/

/-- Load the settings of a project; where there is no file, none is given. -/
def ProjectSettings.load (path : String) : ExceptT Error m ProjectSettings := do
  match ← (look path : m Found) with
  | .missing => return {}
  | found => ProjectSettings.ofText (← found.text)

/-! ## Workbooks -/

namespace Workbook

/-- How a workbook is kept in a file. -/
inductive Format where
  | json
  | yaml
  /-- Formats of spreadsheet programs. -/
  | spreadsheet
deriving DecidableEq

/-- The format that an extension stands for, in lower case. -/
def Format.ofExtension? (extension : String) : Option Format :=
  if extension = "json" then some json
  else if ["yaml", "yml"].contains extension then some yaml
  else if ["xlsx", "xlsm", "xlsb", "xls", "ods"].contains extension then some spreadsheet
  else none

/-- The extension of a path in lower case; that of a path without one is empty. -/
def extension (path : String) : String := ((Path.extension? path).getD "").map Char.toLower

/-- Read a workbook, and with it warnings about its cells. -/
def read (path : String) : ExceptT Error m (Workbook × List Warning) := do
  match Format.ofExtension? (extension path) with
  | some .json => return (← ofJsonText (← readText path), [])
  | some .yaml => return (← ofYamlText (← readText path), [])
  | some .spreadsheet =>
    match ← (openSpreadsheet path : m (Option Spreadsheet)) with
    | some spreadsheet =>
      let grids ← spreadsheet.grids
      return (ofGrids grids, grids.flatMap Grid.warnings)
    | none => throw (.workbookUnopened path)
  | none => throw (.unsupportedFormat (extension path) path)

/-- Load a workbook. -/
def load (path : String) : ExceptT Error m Workbook := do
  let (workbook, _) ← read path
  return workbook

end Workbook

/-! ## Extractions -/

namespace Extraction

/-- Read the text of an extraction. -/
def ofText (text : String) : Except Error Extraction :=
  match ofText? text with
  | some extraction => .ok extraction
  | none => .error .json

/-- Load an extraction. -/
def load (path : String) : ExceptT Error m Extraction := do
  ofText (← readText path)

/-- Save an extraction in a directory. The result is its path. -/
def save (extraction : Extraction) (directory : String) : ExceptT Error m String := do
  let documents := [(Names.rawDocument, extraction.toDocument)]
  let written ← Documents.writeAll directory documents
  return written.headD (Path.join directory Names.rawDocument)

/-- Extraction that is saved. -/
structure Saved where
  extraction : Extraction
  /-- Findings about the workbook. -/
  warnings : List Warning
  path : String

/-- Extract the workbook of a path and save the extraction in a directory. -/
def ofWorkbookAt (workbook directory : String) : ExceptT Error m Saved := do
  let (workbook, warnings) ← Workbook.read workbook
  let extraction ← ofWorkbook workbook
  let path ← extraction.save directory
  return ⟨extraction, warnings ++ workbook.warnings, path⟩

end Extraction

/-! ## Compilations -/

/-- Compile the extraction of a path. -/
def Compilation.ofExtractionAt (config : CompilerSettings) (raw : String) :
    ExceptT Error m Compilation := do
  ofExtraction config (← Extraction.load raw)

/-- Save the documents of a compilation in a directory. The result lists their paths. -/
def Compilation.save (compilation : Compilation) (directory : String) :
    ExceptT Error m (List String) :=
  Documents.writeAll directory compilation.documents

/-- Load a document that holds JSON. -/
def Documents.load {α : Type} (directory name : String) (ofText? : String → Option α) :
    ExceptT Error m α := do
  match ofText? (← Documents.read directory name) with
  | some value => return value
  | none => throw .json

/-- Load the documents of a compilation, which must fit together. -/
def Emission.load (directory : String) : ExceptT Error m Emission := do
  let schema ← Documents.load directory Names.schemaDocument TypedSchema.ofText?
  let routes ← Documents.load directory Names.routesDocument RouteTable.ofText?
  let manifest ← Documents.load directory Names.manifestDocument Manifest.ofText?
  let context : Emission := ⟨schema, routes, manifest⟩
  context.check
  return context

end SheetSchema
