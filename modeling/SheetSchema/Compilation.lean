import SheetSchema.Extraction
import SheetSchema.Hierarchy.Order
import SheetSchema.Manifest
import SheetSchema.Partials
import SheetSchema.Permissions
import SheetSchema.Relations
import SheetSchema.Routes

/-!
# Compilation

An extraction is compiled in steps: partials are inlined, types resolved, relationships expanded
and permission columns moved. The routes, the hierarchy, the imports and the order of the models
follow from the results.
-/

namespace SheetSchema

/-- Everything that a compilation produces. -/
structure Compilation where
  schema : TypedSchema
  routes : RouteTable
  hierarchy : Hierarchy
  imports : Imports
  manifest : Manifest
  diagnostics : List Diagnostic
  warnings : List Warning

namespace Compilation

/-- The compilation of a schema whose types are resolved and whose relationships are expanded. -/
def assemble (config : CompilerSettings) (resolutions : Typing.Resolutions)
    (expanded : TypedSchema) : Compilation :=
  let typed := resolutions.schema
  let hierarchy := Relations.hierarchy typed
  let imports := Relations.addImports config typed resolutions.imports
  let schema := TypedSchema.movePermissions expanded
  let discovered := TypedSchema.discoveryOrder schema
  { schema
    routes := TypedSchema.routes schema
    hierarchy
    imports
    manifest := .ofSchema config.modulePath schema imports
      (hierarchy.inOrder config.sort discovered)
    diagnostics := resolutions.diagnostics
    warnings := resolutions.warnings ++ Relations.warnings typed
      ++ hierarchy.orderWarnings config.sort discovered }

/-- Compile an extraction. -/
def ofExtraction (config : CompilerSettings) (extraction : Extraction) :
    Except Error Compilation := do
  let raw ← extraction.partials.inlineSchema extraction.schema
  let resolutions ← Typing.resolve .standard raw
  let expanded ← Relations.expandSchema resolutions.schema
  .ok (assemble config resolutions expanded)

/-- Names of the models in order. -/
def order (compilation : Compilation) : List String := compilation.manifest.order

/-- What an emitter consumes. -/
def context (compilation : Compilation) : Emission :=
  ⟨compilation.schema, compilation.routes, compilation.manifest⟩

/-- Documents of a compilation with their names. -/
def documents (compilation : Compilation) : List (String × String) :=
  [(Names.schemaDocument, (TypedSchema.toJson compilation.schema).toDocument),
    (Names.routesDocument, (RouteTable.toJson compilation.routes).toDocument),
    (Names.manifestDocument, compilation.manifest.toJson.toDocument)]

end Compilation

end SheetSchema
