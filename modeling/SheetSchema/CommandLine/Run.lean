import SheetSchema.CommandLine.Report
import SheetSchema.Storage

/-!
# Running

A run of the program from its arguments to what it prints. The project file is read before
anything else, and settings are validated before the documents of a workbook or of an extraction
are. A run that fails prints nothing but its error.
-/

namespace SheetSchema.CommandLine

variable {m : Type → Type} {Staged : Type} [Monad m] [Files m Staged]

/-! ## Commands -/

/-- What a command has to say. -/
structure Finding where
  report : Json
  warnings : List Warning := []

/-- Directory of the documents. -/
def directory (project : ProjectSettings) (outDir : Option String) : String :=
  outDir.getD project.outputDirectory

/-- The settings of a compilation. -/
def CompileFlags.config (options : CompileFlags) (project : ProjectSettings) :
    Except Error CompilerSettings :=
  (project.override options.modulePath options.sort).compilerSettings

/-- Save a compilation and report on it. -/
def finish (compilation : Compilation) (directory : String) (warnings : List Warning) :
    ExceptT Error m Finding := do
  let paths ← compilation.save directory
  return { report := Report.ofCompilation compilation paths, warnings }

/-- Run a command with the settings of a project. -/
def Command.run (project : ProjectSettings) : Command → ExceptT Error m Finding
  | extract workbook outDir => do
    let saved ← Extraction.ofWorkbookAt workbook (directory project outDir)
    return { report := Report.ofExtraction saved.extraction saved.path, warnings := saved.warnings }
  | compile raw options => do
    let directory := directory project options.outDir
    let config ← options.config project
    let raw := raw.getD (Path.join directory Names.rawDocument)
    let compilation ← Compilation.ofExtractionAt config raw
    finish compilation directory compilation.warnings
  | build workbook options => do
    let directory := directory project options.outDir
    let config ← options.config project
    let saved ← Extraction.ofWorkbookAt workbook directory
    let compilation ← Compilation.ofExtraction config saved.extraction
    finish compilation directory (saved.warnings ++ compilation.warnings)
  | routes outDir => do
    return { report := Report.ofRoutes (← Emission.load (directory project outDir)) }
  | sheets workbook => do
    let (workbook, warnings) ← Workbook.read workbook
    return { report := Report.ofWorkbook workbook, warnings }
  | types => return { report := Report.ofRegistry .standard }

/-- Run an invocation; the environment may give the module path. -/
def Invocation.run (invocation : Invocation) (modulePath : Option String) :
    ExceptT Error m Finding := do
  let project ← ProjectSettings.load invocation.config
  invocation.command.run (project.withEnvironment modulePath)

/-! ## The program -/

/-- How a run ends. -/
structure Outcome where
  /-- Exit code: 0 after success, 1 after an error, 2 for arguments that do not fit. -/
  code : Nat
  /-- What is printed. -/
  output : String := ""
  error : Option Error := none
  warnings : List Warning := []

/-- Lines that tell how the program is used. -/
def usage : List String :=
  ["Usage: " ++ Names.program ++ " [--config PATH] [--format yaml|json] COMMAND",
    "",
    "Commands:",
    "  extract WORKBOOK [--out-dir DIR]",
    "  compile [--raw PATH] [--out-dir DIR] [--module-path PATH] [--sort bounded|topological]",
    "  build WORKBOOK [--out-dir DIR] [--module-path PATH] [--sort bounded|topological]",
    "  routes [--out-dir DIR]",
    "  sheets WORKBOOK",
    "  types",
    "  help [COMMAND]"]

/-- How a run ends that does not start its work. -/
def Stop.outcome : Stop → Outcome
  | usage => { code := 2 }
  | help => { code := 0, output := String.join (CommandLine.usage.map (· ++ "\n")) }
  | version => { code := 0, output := Names.program ++ " " ++ Names.version ++ "\n" }

/-- Run the program. -/
def execute (arguments : List String) (modulePath : Option String) : m Outcome := do
  match Invocation.ofArguments arguments with
  | .error stop => return stop.outcome
  | .ok invocation =>
    match ← (invocation.run modulePath : ExceptT Error m Finding).run with
    | .error error => return { code := 1, error }
    | .ok finding =>
      return {
        code := 0
        output := invocation.format.render finding.report
        warnings := finding.warnings }

end SheetSchema.CommandLine
