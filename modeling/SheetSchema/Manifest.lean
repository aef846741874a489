import SheetSchema.Error
import SheetSchema.Schema.Document
import SheetSchema.Text.SnakeCase

/-!
# Manifest

What a code emitter needs beside the typed schema and the routes: the module path, the order of
the models, and for every model its source file, imports and primary key. The three documents are
read together and must fit: every model is ordered once and described by all of them.
-/

namespace SheetSchema

open Json (slots? required withDefault string? list? map?)

/-- Facts about one model. -/
structure ModelEntry where
  name : ModelName
  /-- Name of the source file without its extension. -/
  fileStem : String
  imports : List String
  /-- Fields of the primary key, in order. -/
  primaryKey : List String
deriving DecidableEq

/-- Order of the models, and facts about each under its dotted name. -/
structure Manifest where
  modulePath : String
  order : List String
  models : OrderedMap ModelEntry
deriving DecidableEq

/-- Names of the fields that are in the primary key. -/
def TypedModel.primaryKey (fields : TypedModel) : List String :=
  (fields.filter fun _ field => field.primaryKey).keys

/-- Facts about a typed model. -/
def ModelEntry.ofModel (imports : Imports) (name : ModelName) (fields : TypedModel) :
    ModelEntry where
  name
  fileStem := Text.snakeCase name.model
  imports := imports.pathsOf name.qualified
  primaryKey := TypedModel.primaryKey fields

/-- The manifest of a typed schema. -/
def Manifest.ofSchema (modulePath : String) (schema : TypedSchema) (imports : Imports)
    (order : List String) : Manifest where
  modulePath
  order
  models := .ofList (schema.models.map fun (name, fields) =>
    (name.qualified, .ofModel imports name fields))

/-! ## Documents -/

/-- JSON tree of the facts about a model. -/
def ModelEntry.toJson (manifest : ModelEntry) : Json :=
  .object
    [("package", .string manifest.name.package),
      ("model", .string manifest.name.model),
      ("file_stem", .string manifest.fileStem),
      ("imports", Json.ofStrings manifest.imports),
      ("primary_key", Json.ofStrings manifest.primaryKey)]

/-- Read the facts about a model. -/
def ModelEntry.ofJson? (json : Json) : Option ModelEntry := do
  match ← slots? ["package", "model", "file_stem", "imports", "primary_key"] json with
  | [package, model, fileStem, imports, primaryKey] =>
    some {
      name := ⟨← required string? package, ← required string? model⟩
      fileStem := ← required string? fileStem
      imports := ← withDefault [] (list? string?) imports
      primaryKey := ← withDefault [] (list? string?) primaryKey }
  | _ => none

/-- JSON tree of a manifest. -/
def Manifest.toJson (manifest : Manifest) : Json :=
  .object
    [("module_path", .string manifest.modulePath),
      ("order", Json.ofStrings manifest.order),
      ("models", Json.ofMap manifest.models ModelEntry.toJson)]

/-- Read a manifest. -/
def Manifest.ofJson? (json : Json) : Option Manifest := do
  match ← slots? ["module_path", "order", "models"] json with
  | [modulePath, order, models] =>
    some {
      modulePath := ← required string? modulePath
      order := ← required (list? string?) order
      models := ← required (map? ModelEntry.ofJson?) models }
  | _ => none

/-- Read the text of a manifest. -/
def Manifest.ofText? (text : String) : Option Manifest :=
  (Json.read? text).bind Manifest.ofJson?

/-! ## Documents that fit together -/

/-- What an emitter consumes. -/
structure Emission where
  schema : TypedSchema
  routes : RouteTable
  manifest : Manifest

/-- One model as an emitter sees it. -/
structure EmittedModel where
  manifest : ModelEntry
  fields : TypedModel
  routes : Routes

namespace Emission

/-- The model of an ordered name, if all three documents have it. -/
def model? (context : Emission) (qualified : String) : Option EmittedModel := do
  let manifest ← context.manifest.models.get? qualified
  let fields ← context.schema.model? manifest.name
  let routes ← context.routes.model? manifest.name
  some { manifest, fields, routes }

/-- Models in order. -/
def models (context : Emission) : List EmittedModel :=
  context.manifest.order.filterMap context.model?

/-- Check one ordered name after the names `ordered`. -/
def checkNext (context : Emission) (ordered : OrderedSet) (qualified : String) :
    Except Error OrderedSet :=
  if ordered.contains qualified then .error (.orderedTwice qualified)
  else
    match context.manifest.models.get? qualified with
    | none => .error (.orderedUnknown qualified)
    | some manifest =>
      if (context.schema.model? manifest.name).isNone then .error (.missingInSchema qualified)
      else if (context.routes.model? manifest.name).isNone then
        .error (.missingInRoutes qualified)
      else .ok (ordered.insert qualified)

/-- Check that every described model is ordered once and has fields and routes. -/
def check (context : Emission) : Except Error Unit := do
  let ordered ← context.manifest.order.foldlM context.checkNext .empty
  match context.manifest.models.keys.find? fun qualified => !ordered.contains qualified with
  | some missing => .error (.neverOrdered missing)
  | none => .ok ()

end Emission

end SheetSchema
