import SheetSchema.Settings.Compiler
import SheetSchema.Error
import SheetSchema.Yaml.Decode

/-!
# Project settings

The optional settings of a project file, which the environment and the command line may override.
They are validated into the settings that a compilation needs: blanks and slashes around the
module path and the models directory are trimmed, and a module path must be left.
-/

namespace SheetSchema

/-- Settings of a project; each may be missing. -/
structure ProjectSettings where
  modulePath : Option String := none
  modelsDir : Option String := none
  outputDir : Option String := none
  sort : Option OrderStrategy := none
deriving DecidableEq

namespace ProjectSettings

/-! ## Reading -/

/-- Whether a node spells that nothing is given; none if its tag promises that and it does not. -/
def isMissing? : Yaml.Node → Option Bool
  | .scalar tag text true =>
    match tag with
    | none => some (text.isEmpty || Yaml.isNull text)
    | some tag =>
      if tag = Yaml.coreTag "null" then if Yaml.isNull text then some true else none
      else some false
  | _ => some false

/-- Read a setting that may be missing. -/
def setting {α : Type} (document : Yaml.Document) (read : Yaml.Node → Option α)
    (node : Yaml.Node) : Yaml.Decoder (Option α) := do
  let node ← Yaml.follow document node
  match isMissing? node with
  | none => failure
  | some true => return none
  | some false =>
    match read node with
    | some value => return some value
    | none => failure

/-- The text of a scalar. -/
def scalarText? : Yaml.Node → Option String
  | .scalar _ text _ => some text
  | _ => none

/-- The strategy that a scalar names, by its text or by a tag of its own with nothing after it. -/
def strategy? : Yaml.Node → Option OrderStrategy
  | .scalar tag text plain =>
    match tag.filter Yaml.isLocalTag with
    | some tag =>
      if plain && (text.isEmpty || Yaml.isNull text) then
        OrderStrategy.ofName? (String.ofList (tag.toList.drop 1))
      else none
    | none => OrderStrategy.ofName? text
  | _ => none

/-- The node of a named entry, if there is one; two are an error. -/
def entry? (entries : List (String × Yaml.Node)) (name : String) :
    Yaml.Decoder (Option Yaml.Node) :=
  match entries.filter fun entry => entry.1 == name with
  | [] => pure none
  | [entry] => pure (some entry.2)
  | _ => failure

/-- Read the setting of a name. -/
def named {α : Type} (document : Yaml.Document) (entries : List (String × Yaml.Node))
    (name : String) (read : Yaml.Node → Option α) : Yaml.Decoder (Option α) := do
  match ← entry? entries name with
  | none => return none
  | some node => setting document read node

/-- Read settings from a node; entries of other names are passed over. -/
def ofNode (document : Yaml.Document) (root : Yaml.Node) : Yaml.Decoder ProjectSettings := do
  let entries ← (← Yaml.entries document root).mapM fun (key, node) => do
    return (← Yaml.text document key, node)
  return {
    modulePath := ← named document entries "module_path" scalarText?
    modelsDir := ← named document entries "models_dir" scalarText?
    outputDir := ← named document entries "output_dir" scalarText?
    sort := ← named document entries "sort" strategy? }

/-- Read the text of a project file; a blank one gives no setting. -/
def ofText (text : String) : Except Error ProjectSettings :=
  if (Text.trim text).isEmpty then .ok {}
  else
    match Yaml.decode? ofNode text with
    | some config => .ok config
    | none => .error .yaml

/-! ## Overriding -/

/-- Take the module path from the environment, unless that is blank. -/
def withEnvironment (config : ProjectSettings) (modulePath : Option String) : ProjectSettings :=
  match modulePath.filter fun path => !(Text.trim path).isEmpty with
  | some path => { config with modulePath := some path }
  | none => config

/-- Take the settings that are given. -/
def override (config : ProjectSettings) (modulePath : Option String) (sort : Option OrderStrategy) :
    ProjectSettings :=
  { config with modulePath := modulePath.or config.modulePath, sort := sort.or config.sort }

/-! ## Validating -/

/-- Directory of documents where none is given. -/
def standardOutputDir : String := "build"

/-- Directory that documents are written into. -/
def outputDirectory (config : ProjectSettings) : String := config.outputDir.getD standardOutputDir

/-- Drop blanks around a module path and slashes after it. -/
def cleanModulePath (path : String) : String :=
  String.ofList (Text.dropEndWhile (· == '/') (Text.trimChars path.toList))

/-- Drop blanks and slashes around a directory. -/
def cleanDirectory (path : String) : String :=
  String.ofList
    (Text.dropEndWhile (· == '/') ((Text.trimChars path.toList).dropWhile (· == '/')))

/-- The settings that a compilation needs. -/
def compilerSettings (config : ProjectSettings) : Except Error CompilerSettings :=
  match (config.modulePath.map cleanModulePath).filter fun path => !path.isEmpty with
  | none => .error .modulePathUnset
  | some modulePath =>
    let modelsDir := (config.modelsDir.map cleanDirectory).filter fun path => !path.isEmpty
    .ok {
      modulePath
      modelsDir := modelsDir.getD CompilerSettings.standardModelsDir
      sort := config.sort.getD .boundedPasses }

end ProjectSettings

end SheetSchema
