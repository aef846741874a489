import SheetSchema.Settings.Compiler
import SheetSchema.Names

/-!
# Arguments

The grammar of the command line: options of the program, the name of a command, and the options
and the operand of the command. An option is written with its value in one argument, joined by an
equals sign, or in two. Arguments are read from the left, and the first that asks for help or for
the version, or does not fit, ends the reading. The value of an option in two arguments is looked
at only when the next option is met or at the end, which for an option of the program is after the
arguments of the command.
-/

namespace SheetSchema.CommandLine

/-! ## Invocations -/

/-- How results are printed. -/
inductive ReportFormat where
  | yaml
  | json
deriving DecidableEq

/-- Options of the commands that compile. -/
structure CompileFlags where
  outDir : Option String
  modulePath : Option String
  sort : Option OrderStrategy
deriving DecidableEq

/-- What the program is asked to do. -/
inductive Command where
  /-- Extract a workbook and save the extraction. -/
  | extract (workbook : String) (outDir : Option String)
  /-- Compile a saved extraction and save the compilation. -/
  | compile (raw : Option String) (options : CompileFlags)
  /-- Extract and compile a workbook and save both. -/
  | build (workbook : String) (options : CompileFlags)
  /-- List the models of a saved compilation. -/
  | routes (outDir : Option String)
  /-- List the sheets of a workbook. -/
  | sheets (workbook : String)
  /-- List the registered types. -/
  | types
deriving DecidableEq

/-- What the arguments say. -/
structure Invocation where
  /-- Path of the project file. -/
  config : String
  format : ReportFormat
  command : Command
deriving DecidableEq

/-- Why the program ends before it starts its work. -/
inductive Stop where
  /-- The arguments do not fit the grammar. -/
  | usage
  | help
  | version
deriving DecidableEq

/-! ## Options -/

/-- Options with a value. -/
inductive ValueOption where
  | config
  | format
  | outDir
  | raw
  | modulePath
  | sort
deriving DecidableEq

namespace ValueOption

/-- Name of an option after two hyphens. -/
def name : ValueOption → String
  | config => "config"
  | format => "format"
  | outDir => "out-dir"
  | raw => "raw"
  | modulePath => "module-path"
  | sort => "sort"

/-- The output format of a name. -/
def format? (name : String) : Option ReportFormat :=
  if name = "yaml" then some .yaml else if name = "json" then some .json else none

/-- The sort strategy of a name. -/
def sort? (name : String) : Option OrderStrategy :=
  if name = "bounded" then some .boundedPasses
  else if name = "topological" then some .topological
  else none

/-- Whether an option takes a value: paths are not empty, and choices are one of the names. -/
def accepts : ValueOption → String → Bool
  | config, value | outDir, value | raw, value => value != ""
  | format, value => (format? value).isSome
  | modulePath, _ => true
  | sort, value => (sort? value).isSome

end ValueOption

/-- What may stand in one part of the command line. -/
structure Grammar where
  options : List ValueOption
  /-- Whether an operand may be given. -/
  operand : Bool
  /-- Whether the version may be asked for. -/
  version : Bool

/-- Grammar of what stands before the command. -/
def Grammar.program : Grammar := ⟨[.config, .format], false, true⟩

/-- The grammar of a command. -/
def Grammar.ofCommand? (name : String) : Option Grammar :=
  [("extract", ⟨[.outDir], true, false⟩),
    ("compile", ⟨[.raw, .outDir, .modulePath, .sort], false, false⟩),
    ("build", ⟨[.outDir, .modulePath, .sort], true, false⟩),
    ("routes", ⟨[.outDir], false, false⟩),
    ("sheets", ⟨[], true, false⟩),
    ("types", ⟨[], false, false⟩)].lookup name

/-! ## Reading -/

/-- What has been read of one part of the command line. -/
structure Given where
  values : List (ValueOption × String) := []
  /-- Option in two arguments whose value is still to be looked at. -/
  pending : Option (ValueOption × String) := none
  operand : Option String := none

namespace Given

/-- Take the value of an option, which may be given once. -/
def accept (given : Given) (option : ValueOption) (value : String) : Except Stop Given :=
  if (given.values.lookup option).isSome || !option.accepts value then .error .usage
  else .ok { given with values := (option, value) :: given.values }

/-- Look at the value that is pending. -/
def settle (given : Given) : Except Stop Given :=
  match given.pending with
  | none => .ok given
  | some (option, value) => { given with pending := none }.accept option value

/-- Take an operand, which may be given once and is a path. -/
def acceptOperand (given : Given) (operand : String) : Except Stop Given :=
  if given.operand.isSome || operand = "" then .error .usage
  else .ok { given with operand := some operand }

end Given

/-- Shape of an argument. -/
inductive Argument where
  /-- Two hyphens alone: all that follow are words. -/
  | hyphens
  /-- Two hyphens and a name, and a value if an equals sign is there. -/
  | long (name : String) (value : Option String)
  /-- A hyphen and letters. -/
  | short (letters : List Char)
  | word (text : String)

/-- The shape of an argument. -/
def Argument.ofText (text : String) : Argument :=
  match text.toList with
  | ['-', '-'] => hyphens
  | '-' :: '-' :: rest =>
    match rest.span (· != '=') with
    | (name, _ :: value) => long (String.ofList name) (some (String.ofList value))
    | (name, []) => long (String.ofList name) none
  | '-' :: c :: rest => short (c :: rest)
  | _ => word text

/-- Whether an argument can be the value of the option before it. -/
def Argument.isValue (text : String) : Bool :=
  match Argument.ofText text with
  | word _ => true
  | _ => false

namespace Grammar

/-- The option of a name. -/
def option? (grammar : Grammar) (name : String) : Option ValueOption :=
  grammar.options.find? fun option => option.name == name

/-- How the reading ends at a flag, once the value before it is looked at. -/
def stopAt (grammar : Grammar) (given : Given) (name : String) : Stop :=
  match given.settle with
  | .error stop => stop
  | .ok _ =>
    if name = "help" then .help
    else if grammar.version && name = "version" then .version
    else .usage

/-- The name of the flag that a letter stands for. -/
def flagName (letter : Char) : String :=
  if letter == 'h' then "help" else if letter == 'V' then "version" else ""

/-- Take the words after two hyphens alone. -/
def words (grammar : Grammar) (given : Given) : List String → Except Stop Given
  | [] => .ok given
  | [word] => if grammar.operand then given.acceptOperand word else .error .usage
  | _ => .error .usage

/-- Read one part of the command line, up to a word that is no operand. The result holds that word
and what follows it. -/
def read (grammar : Grammar) (given : Given) : List String → Except Stop (Given × List String)
  | [] => .ok (given, [])
  | argument :: rest =>
    match Argument.ofText argument with
    | .hyphens => (grammar.words given rest).map fun given => (given, [])
    | .long name value =>
      match grammar.option? name, value with
      | some option, some value => do
        let given ← given.settle
        grammar.read (← given.accept option value) rest
      | some option, none =>
        match rest with
        | [] => .error .usage
        | value :: rest =>
          if Argument.isValue value then do
            let given ← given.settle
            grammar.read { given with pending := some (option, value) } rest
          else .error .usage
      | none, some _ => .error .usage
      | none, none => .error (grammar.stopAt given name)
    | .short letters => .error (grammar.stopAt given (flagName (letters.headD ' ')))
    | .word word =>
      if grammar.operand then do grammar.read (← given.acceptOperand word) rest
      else .ok (given, word :: rest)

end Grammar

/-! ## Commands -/

namespace Given

/-- The value of an option. -/
def value? (given : Given) (option : ValueOption) : Option String := given.values.lookup option

/-- The operand, which must be there. -/
def required (given : Given) : Except Stop String :=
  match given.operand with
  | some operand => .ok operand
  | none => .error .usage

/-- Options of a command that compiles. -/
def compileFlags (given : Given) : CompileFlags where
  outDir := given.value? .outDir
  modulePath := given.value? .modulePath
  sort := (given.value? .sort).bind ValueOption.sort?

/-- The command of a name. -/
def command (given : Given) (name : String) : Except Stop Command :=
  match name with
  | "extract" => do .ok (.extract (← given.required) (given.value? .outDir))
  | "compile" => .ok (.compile (given.value? .raw) given.compileFlags)
  | "build" => do .ok (.build (← given.required) given.compileFlags)
  | "routes" => .ok (.routes (given.value? .outDir))
  | "sheets" => do .ok (.sheets (← given.required))
  | "types" => .ok .types
  | _ => .error .usage

end Given

/-- Read the arguments of the help command: at most the name of a command. -/
def readHelp : List String → Stop
  | [] => .help
  | [name] => if name = "help" || (Grammar.ofCommand? name).isSome then .help else .usage
  | _ => .usage

/-- Read a command and its arguments. -/
def readCommand (name : String) (arguments : List String) : Except Stop Command :=
  match Grammar.ofCommand? name with
  | some grammar => do
    let (given, rest) ← grammar.read {} arguments
    if rest.isEmpty then (← given.settle).command name else .error .usage
  | none => .error (if name = "help" then readHelp arguments else .usage)

/-- Read the arguments of the program. -/
def Invocation.ofArguments (arguments : List String) : Except Stop Invocation := do
  let (given, rest) ← Grammar.program.read {} arguments
  match rest with
  | [] => .error .usage
  | name :: arguments =>
    let command ← readCommand name arguments
    let given ← given.settle
    .ok {
      config := (given.value? .config).getD Names.projectFile
      format := ((given.value? .format).bind ValueOption.format?).getD .yaml
      command }

end SheetSchema.CommandLine
