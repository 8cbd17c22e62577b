import Scaffold.Archive.Bundle
import Scaffold.Command.Basic
import Scaffold.Config.Load
import Scaffold.Generation
import Scaffold.Outline
import Scaffold.Text.Split

namespace Scaffold.Report

inductive Paint where
  | green
  | dimmed
  | bold
  deriving DecidableEq, Repr

def Paint.code : Paint → String
  | green => "32"
  | dimmed => "2"
  | bold => "1"

def Paint.apply (p : Paint) (colored : Bool) (text : String) : String :=
  if colored then "\x1b[" ++ p.code ++ "m" ++ text ++ "\x1b[0m" else text

def summary (colored : Bool) (o : Outline) (testFile reportFile : String) : String :=
  let place (label path : String) := Paint.green.apply colored label ++ " " ++ path
  let count (label : String) (n : Nat) :=
    Paint.dimmed.apply colored label ++ " " ++ Paint.bold.apply colored (toString n)
  Text.lines [place "Generated test file:" testFile, place "Generated test report:" reportFile,
    count "Functions found:" o.functions.length, count "Classes found:" o.classes.length]

end Scaffold.Report

namespace Scaffold.Command

structure Outcome where
  exitCode : Nat
  stdout : String
  stderr : String
  deriving DecidableEq, Repr

namespace Outcome

def success (text : String) : Outcome := ⟨0, text, ""⟩

def failure (lines : List String) : Outcome := ⟨2, "", Text.lines lines⟩

def failed (message : String) : Outcome := failure ["Error: " ++ message]

end Outcome

structure Surroundings where
  userFile : Option String
  colored : Bool

variable {m : Type → Type} [Monad m] [Storage m]

def formats : List String := ["pretty", "json"]

def describe (env : Surroundings) (format : String) (o : Generation.Outcome) : String :=
  if format = "json" then Report.renderJson o.outline o.testFile o.reportFile ++ "\n"
  else Report.summary env.colored o.outline o.testFile o.reportFile

def runGenerate (env : Surroundings) (args : GenerateArgs) : m Outcome := do
  if !formats.contains args.format then
    return .failed ("invalid format " ++ Text.quoted args.format ++ ", must be 'pretty' or 'json'")
  else
    match ← Config.load env.userFile args.config with
    | .error e => return .failed e.summary
    | .ok config =>
      match ← Generation.generate { config with outputDir := args.outputDir.or config.outputDir } args.path with
      | .error e => return .failed e.message
      | .ok o => return .success (describe env args.format o)

def nextSteps (output : String) (userFile : Option String) : String :=
  Text.lines (["Created " ++ output, "", "Next steps:",
    "  1. Edit " ++ output ++ " to customize output locations",
    "  2. Run: testpilot generate <source-file> --config " ++ output] ++
    userFile.elim [] fun path => ["", "A user-wide config can also live at " ++ path])

def neededDir? (path : String) : Option String :=
  (Path.parent? path).filter fun p => p ≠ "" && Path.components p ≠ [.current]

def runInit (env : Surroundings) (args : InitArgs) : m Outcome := do
  if ← Storage.isPresent args.output then
    return .failure ["Error: file already exists: " ++ args.output,
      "Remove it or use --output to specify a different path"]
  else
    let made ← match neededDir? args.output with
      | some dir => Storage.makeDirs dir
      | none => pure (.ok ())
    match made with
    | .error fault => return .failed ("failed to create directory: " ++ fault.message)
    | .ok () =>
      match ← Storage.writeText args.output Config.template with
      | .error fault => return .failed ("failed to write config: " ++ fault.message)
      | .ok () => return .success (nextSteps args.output env.userFile)

/-- The folder in an archive: the one that is given, or the name of the directory, but not only slashes. -/
def folderFor? (args : PackageArgs) : m (Option String) := do
  let folder ← match args.folder with
    | some folder => pure (some folder)
    | none => do pure ((← Storage.realPath? args.path).bind Path.fileName?)
  return folder.filter fun f => Archive.trimSlashes f ≠ ""

def runPackage (args : PackageArgs) : m Outcome := do
  match ← folderFor? args with
  | none => return .failed "cannot derive an archive prefix, use --prefix"
  | some folder =>
    let output := args.output.getD (folder ++ ".zip")
    match ← Archive.bundle args.path output folder with
    | .error e => return .failed e.message
    | .ok count =>
      return .success ("Packaged " ++ toString count ++ " files into " ++ output ++ "\n")

def run (env : Surroundings) : Command → m Outcome
  | .generate args => runGenerate env args
  | .init args => runInit env args
  | .package args => runPackage args

end Scaffold.Command
