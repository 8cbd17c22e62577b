import Scaffold.Config
import Scaffold.Text.Split

namespace Scaffold.Command

/-- What an argument with a name does. A value has a name too, and may have to be a path, which is not
empty. -/
inductive Action where
  | verbose
  | help
  | version
  | value (name : String) (isPath : Bool) (default? : Option String)
  deriving DecidableEq, Repr

structure Argument where
  short : Char
  long : String
  action : Action
  about : String
  deriving DecidableEq, Repr

structure Operand where
  name : String
  about : String
  deriving DecidableEq, Repr

structure Entry where
  name : String
  otherName : Option String
  about : String
  deriving DecidableEq, Repr

structure Level where
  title : String
  about : String
  arguments : List Argument
  operand : Option Operand
  commands : List Entry
  deriving DecidableEq, Repr

namespace Argument

def verboseFlag : Argument := ⟨'v', "verbose", .verbose, "Enable debug logging (RUST_LOG takes precedence)"⟩

def helpFlag : Argument := ⟨'h', "help", .help, "Print help"⟩

def versionFlag : Argument := ⟨'V', "version", .version, "Print version"⟩

def display (a : Argument) : String :=
  "--" ++ a.long ++
    match a.action with
    | .value name _ _ => " <" ++ name ++ ">"
    | _ => ""

def explanation (a : Argument) : String :=
  a.about ++
    match a.action with
    | .value _ _ (some text) => " [default: " ++ text ++ "]"
    | _ => ""

end Argument

namespace Operand

def display (o : Operand) : String := "<" ++ o.name ++ ">"

end Operand

namespace Level

def short? (l : Level) (c : Char) : Option Argument := l.arguments.find? fun a => a.short = c

def long? (l : Level) (name : String) : Option Argument := l.arguments.find? fun a => a.long = name

def command? (l : Level) (name : String) : Option Entry :=
  l.commands.find? fun e => e.name = name || e.otherName = some name

/-- How the level is used. A level without arguments of its own does without a command too. -/
def usage (l : Level) : String :=
  "Usage: " ++ l.title ++ (if l.arguments.isEmpty then "" else " [OPTIONS]") ++
    l.operand.elim "" (fun o => " " ++ o.display) ++
    (if l.commands.isEmpty then "" else if l.arguments.isEmpty then " [COMMAND]" else " <COMMAND>")

def columns (rows : List (String × String)) : List String :=
  let width := (rows.map fun r => r.1.length).foldl max 0
  rows.map fun (left, right) =>
    "  " ++ left ++ String.ofList (List.replicate (width + 2 - left.length) ' ') ++ right

def titled (title : String) (rows : List (String × String)) : List String :=
  if rows.isEmpty then [] else ["", title] ++ columns rows

def commandRow (e : Entry) : String × String :=
  (e.name, e.about ++ e.otherName.elim "" fun a => " [alias: " ++ a ++ "]")

def helpText (l : Level) : String :=
  Text.lines ([l.about, "", l.usage] ++ titled "Commands:" (l.commands.map commandRow) ++
    titled "Arguments:" (l.operand.toList.map fun o => (o.display, o.about)) ++
    titled "Options:" (l.arguments.map fun a =>
      ("-" ++ String.singleton a.short ++ ", " ++ a.display, a.explanation)))

end Level

def generateAbout : String := "Generate a test scaffold and report for a source file"

def initAbout : String := "Write a default testpilot config file"

def packageAbout : String := "Bundle a directory into a zip archive"

def helpAbout : String := "Print this message or the help of the given subcommand(s)"

def generateLevel : Level where
  title := programName ++ " generate"
  about := generateAbout
  arguments :=
    [⟨'o', "output-dir", .value "OUTPUT_DIR" true none,
        "Directory for the generated files (overrides the config file)"⟩,
      .verboseFlag,
      ⟨'c', "config", .value "CONFIG" true none, "Path to config YAML file (default: auto-discover)"⟩,
      ⟨'f', "format", .value "FORMAT" false (some "pretty"), "Output format: pretty or json"⟩,
      .helpFlag]
  operand := some ⟨"PATH", "Source file to analyze"⟩
  commands := []

def initLevel : Level where
  title := programName ++ " init"
  about := initAbout
  arguments :=
    [⟨'o', "output", .value "OUTPUT" true (some "testpilot.yaml"), "Output file path"⟩,
      .verboseFlag, .helpFlag]
  operand := none
  commands := []

def packageLevel : Level where
  title := programName ++ " package"
  about := packageAbout
  arguments :=
    [⟨'o', "output", .value "OUTPUT" true none,
        "Archive path (default: <prefix>.zip in the current directory)"⟩,
      .verboseFlag,
      ⟨'p', "prefix", .value "PREFIX" false none,
        "Top-level folder for archive entries (default: the directory name)"⟩,
      .helpFlag]
  operand := some ⟨"PATH", "Directory to bundle"⟩
  commands := []

def topLevel : Level where
  title := programName
  about := "Scaffold unit tests and a coverage report from a single source file"
  arguments := [.verboseFlag, .helpFlag, .versionFlag]
  operand := none
  commands :=
    [⟨"generate", some "gen", generateAbout⟩, ⟨"init", none, initAbout⟩, ⟨"package", none, packageAbout⟩,
      ⟨"help", none, helpAbout⟩]

def helpLevel : Level where
  title := programName ++ " help"
  about := helpAbout
  arguments := []
  operand := none
  commands := topLevel.commands.map fun e => { e with otherName := none }

def versionText : String := programName ++ " " ++ version ++ "\n"

end Scaffold.Command
