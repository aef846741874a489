import SheetSchema.Compilation
import SheetSchema.CommandLine.Arguments
import SheetSchema.Json.Sorted
import SheetSchema.Yaml.Printer

/-!
# Reports

What a command prints about its results: a tree whose objects are sorted by name, as YAML or as
indented JSON.
-/

namespace SheetSchema.CommandLine

/-- The number of a count. -/
def count (n : Nat) : Json := .number (toString n)

/-- A value that may be missing. -/
def orNull {α : Type} (value : Option α) (toJson : α → Json) : Json :=
  match value with
  | some value => toJson value
  | none => .null

/-- The tree of a diagnostic. -/
def diagnostic (diagnostic : Diagnostic) : Json :=
  .object
    [("package", .string diagnostic.field.owner.package),
      ("model", .string diagnostic.field.owner.model),
      ("field", .string diagnostic.field.field),
      ("message", .string diagnostic.message)]

namespace Report

/-- Report on an extraction that is saved at a path. -/
def ofExtraction (extraction : Extraction) (path : String) : Json :=
  .object
    [("ok", .bool true),
      ("written", .string path),
      ("packages", Json.ofStrings extraction.schema.keys),
      ("models", count (extraction.schema.values.foldl (fun sum models => sum + models.size) 0)),
      ("partials", Json.ofStrings extraction.partials.keys)]

/-- Report on a compilation that is saved at the given paths. -/
def ofCompilation (compilation : Compilation) (paths : List String) : Json :=
  .object
    [("ok", .bool true),
      ("written", Json.ofStrings paths),
      ("order", Json.ofStrings compilation.order),
      ("diagnostics", .array (compilation.diagnostics.map diagnostic))]

/-- What a report on routes says about a model. -/
def ofModel (model : EmittedModel) : Json :=
  .object
    [("model", .string model.manifest.name.qualified),
      ("file", .string (model.manifest.name.package ++ "/" ++ model.manifest.fileStem)),
      ("imports", Json.ofStrings model.manifest.imports),
      ("primary_key", Json.ofStrings model.manifest.primaryKey),
      ("routes", model.routes.toJson)]

/-- Report on the routes of all models. -/
def ofRoutes (context : Emission) : Json :=
  .object
    [("module_path", .string context.manifest.modulePath),
      ("models", .array (context.models.map ofModel))]

/-- What a report on a workbook says about a sheet. -/
def ofSheet (sheet : Sheet) : Json :=
  .object
    [("name", .string sheet.name),
      ("rows", count sheet.rows.length),
      ("model_sheet", .bool sheet.declaresModels)]

/-- Report on the sheets of a workbook. -/
def ofWorkbook (workbook : Workbook) : Json := .array (workbook.sheets.map ofSheet)

/-- What a report on types says about a type. -/
def ofDomain (domain : SheetType) : Json :=
  .object
    [("type", .string domain.base),
      ("length", orNull domain.length? count),
      ("import", orNull domain.importPath? .string)]

/-- Report on the types of a registry. -/
def ofRegistry (registry : Registry) : Json :=
  .object (registry.entries.map fun (name, domain) => (name, ofDomain domain))

end Report

/-- Print a report. -/
def ReportFormat.render (format : ReportFormat) (report : Json) : String :=
  match format with
  | yaml => Yaml.print report.sorted
  | json => report.sorted.toDocument

end SheetSchema.CommandLine
