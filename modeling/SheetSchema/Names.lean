/-!
# Fixed names

What files, sheets and columns are called.
-/

namespace SheetSchema.Names

/-! ## Program -/

/-- Name of the program. -/
def program : String := "sheetgen"

/-- Version of the program. -/
def version : String := "0.4.0"

/-! ## Documents -/

/-- Raw schema, written by extraction. -/
def rawDocument : String := "raw.json"

/-- Compiled schema. -/
def schemaDocument : String := "schema.json"

/-- Route schema. -/
def routesDocument : String := "routes.json"

/-- Emission manifest. -/
def manifestDocument : String := "manifest.json"

/-! ## Project -/

/-- Project configuration, looked up in the working directory. -/
def projectFile : String := "sheetgen.yaml"

/-- Environment variable that overrides the module path. -/
def modulePathVariable : String := "SHEETGEN_MODULE_PATH"

/-! ## Sheets and columns -/

/-- Column that opens a model; a sheet that starts with it declares models. -/
def modelColumn : String := "Model"

/-- Column with the name of a field. -/
def fieldColumn : String := "Field"

/-- Sheet whose models are partials. -/
def partialsSheet : String := "partials"

/-- Start of the name of a field that stands for the fields of a partial. -/
def partialMark : String := "partials."

end SheetSchema.Names
