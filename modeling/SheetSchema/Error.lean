import SheetSchema.Names
import SheetSchema.Schema.Basic

/-!
# Errors and warnings

Every cause for which reading, compiling or writing fails, and every finding that is reported
without failing, with its text.
-/

namespace SheetSchema

/-- Cause of a failure. -/
inductive Error where
  /-- A registered type name is empty or not in lower case. -/
  | unfoldedTypeName (name : String)
  | repeatedTypeName (name : String)
  | modulePathUnset
  /-- A model cell is no identifier. -/
  | modelNotIdentifier (sheet : String) (row : Nat) (model : String)
  | rowBeforeModel (sheet : String) (row : Nat)
  | rowWithoutField (sheet : String) (row : Nat)
  /-- A partial is reached again while the partials `via` are being inlined. -/
  | partialCycle (name : String) (via : List String) (model : ModelName)
  | unresolvedPartial (name : String) (model : ModelName)
  /-- A column that bounds a field cannot be read. -/
  | invalidBound (field : FieldName) (column : String) (value : String)
  | unknownType (field : FieldName) (declared : String)
  | malformedRelationship (key : String)
  /-- Two fields of a model produce the same field. -/
  | outputCollision (model : ModelName) (previous source output : String)
  | orderedTwice (model : String)
  | orderedUnknown (model : String)
  | missingInSchema (model : String)
  | missingInRoutes (model : String)
  | neverOrdered (model : String)
  | documentMissing (name directory : String)
  | unsupportedFormat (extension path : String)
  | workbookUnopened (path : String)
  | sheetUnread (sheet : String)
  /-- A text is no JSON document of the expected shape. -/
  | json
  /-- A text is no YAML document of the expected shape. -/
  | yaml
  /-- A file or directory cannot be read or written. -/
  | io
  /-- A document cannot be put in its place. -/
  | notPersisted (path : String)
deriving DecidableEq

namespace Error

/-- Text of a fault in the sheets or documents. -/
def schemaText (text : String) : String := "Schema error: " ++ text

/-- Text of a fault in a row of a sheet. -/
def rowText (sheet : String) (row : Nat) (text : String) : String :=
  schemaText s!"Sheet '{sheet}' row {row}: {text}"

/-- Text of the error. -/
def message : Error → String
  | unfoldedTypeName name =>
    s!"Configuration error: Type registry name '{name}' must be non-empty and lower-case"
  | repeatedTypeName name =>
    s!"Configuration error: Type registry name '{name}' is registered twice"
  | modulePathUnset =>
    "Configuration error: module_path is not set; add it to " ++ Names.projectFile ++ ", set "
      ++ Names.modulePathVariable ++ ", or pass --module-path"
  | modelNotIdentifier sheet row model =>
    rowText sheet row s!"model name '{model}' is not a valid identifier"
  | rowBeforeModel sheet row => rowText sheet row "data appears before any Model cell"
  | rowWithoutField sheet row => rowText sheet row "row has no Field value"
  | partialCycle name via model =>
    schemaText <| s!"Partial '{name}' includes itself (via " ++ " -> ".intercalate via ++ ") in "
      ++ model.qualified
  | unresolvedPartial name model =>
    s!"Unresolved partial '{name}' referenced by " ++ model.qualified
  | invalidBound field column value => s!"Invalid {column} '{value}' on " ++ field.qualified
  | unknownType field declared =>
    s!"Type resolution error: unknown type '{declared}' on " ++ field.qualified
  | malformedRelationship key =>
    schemaText s!"Relationship key '{key}' must have the form <package>.<Model>"
  | outputCollision model previous source output =>
    schemaText <| model.qualified
      ++ s!": fields '{previous}' and '{source}' both expand to '{output}'"
  | orderedTwice model =>
    schemaText (Names.manifestDocument ++ s!" orders {model} more than once")
  | orderedUnknown model =>
    schemaText (Names.manifestDocument ++ s!" orders unknown model {model}")
  | missingInSchema model => schemaText (Names.schemaDocument ++ s!" has no entry for {model}")
  | missingInRoutes model => schemaText (Names.routesDocument ++ s!" has no entry for {model}")
  | neverOrdered model =>
    schemaText (Names.manifestDocument ++ s!" describes {model} but never orders it")
  | documentMissing name directory => schemaText s!"{name} not found in {directory}"
  | unsupportedFormat extension path =>
    s!"Workbook error: Unsupported workbook format '{extension}' for {path}"
  | workbookUnopened path => s!"Workbook error: Failed to open {path}"
  | sheetUnread sheet => s!"Workbook error: Failed to read sheet '{sheet}'"
  | json => "JSON error"
  | yaml => "YAML error"
  | io => "IO error"
  | notPersisted path => s!"Failed to persist {path}"

end Error

/-- Finding that does not stop the work. -/
inductive Warning where
  | fieldNotIdentifier (sheet : String) (row : Nat) (field : String)
  /-- A cell of a spreadsheet holds an error instead of a value. -/
  | cellError (sheet column error : String)
  | columnDropped (column : String)
  | unknownType (field : FieldName) (declared : String)
  /-- A relationship points at a model that the workbook does not define. -/
  | undefinedTarget (field : FieldName) (target : ModelName)
  | relationshipCycle (models : List String)
deriving DecidableEq

/-- Text of the warning. -/
def Warning.message : Warning → String
  | fieldNotIdentifier sheet row field =>
    s!"Sheet '{sheet}' row {row}: field name '{field}' is not a valid identifier"
  | cellError sheet column error =>
    s!"Sheet '{sheet}' column '{column}' holds a cell error ({error}); ignoring it"
  | columnDropped column =>
    s!"Column '{column}' collides with a compiled field key and was dropped"
  | unknownType field declared =>
    s!"Unknown type '{declared}' on " ++ field.qualified ++ "; leaving it untyped"
  | undefinedTarget field target =>
    field.qualified ++ " references " ++ target.qualified
      ++ " which is not defined in this workbook"
  | relationshipCycle models =>
    "Relationship cycle between " ++ ", ".intercalate models
      ++ "; emitting them in original order"

end SheetSchema
