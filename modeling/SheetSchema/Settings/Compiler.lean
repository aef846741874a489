import SheetSchema.Json.Decode

/-!
# Compiler settings

The settings that a compilation needs: the module under which generated packages live, and how
models are ordered.
-/

namespace SheetSchema

/-- How models are ordered. -/
inductive OrderStrategy where
  /-- Roots first, then a fixed number of passes that place models with one parent. -/
  | boundedPasses
  /-- Every parent before its children, as far as there are no cycles. -/
  | topological
deriving DecidableEq

namespace OrderStrategy

/-- Name in settings. -/
def name : OrderStrategy → String
  | boundedPasses => "bounded_passes"
  | topological => "topological"

/-- The strategy of a name. -/
def ofName? (name : String) : Option OrderStrategy :=
  [boundedPasses, topological].find? fun strategy => strategy.name == name

instance : Inhabited OrderStrategy := ⟨boundedPasses⟩

end OrderStrategy

/-- Settings of a compilation. -/
structure CompilerSettings where
  /-- Import path of the generated module. -/
  modulePath : String
  /-- Directory under the module that holds one package for every sheet. -/
  modelsDir : String
  sort : OrderStrategy
deriving DecidableEq

namespace CompilerSettings

/-- Directory of the packages where the settings name none. -/
def standardModelsDir : String := "models"

/-- Default settings for a module. -/
def ofModulePath (modulePath : String) : CompilerSettings :=
  ⟨modulePath, standardModelsDir, .boundedPasses⟩

/-- Import path of the package of a sheet. -/
def importPathOf (config : CompilerSettings) (package : String) : String :=
  config.modulePath ++ "/" ++ config.modelsDir ++ "/" ++ package

/-- Read settings from a JSON tree. -/
def ofJson? (json : Json) : Option CompilerSettings := do
  match ← Json.slots? ["module_path", "models_dir", "sort"] json with
  | [modulePath, modelsDir, sort] =>
    some {
      modulePath := ← Json.required Json.string? modulePath
      modelsDir := ← Json.withDefault standardModelsDir Json.string? modelsDir
      sort := ← Json.withDefault .boundedPasses
        (fun json => (Json.caseName? json).bind OrderStrategy.ofName?) sort }
  | _ => none

end CompilerSettings

end SheetSchema
