import Scaffold.Log
import Scaffold.Path
import Scaffold.Report.Markdown
import Scaffold.Text.Character

namespace Scaffold

def programName : String := "testpilot"

def version : String := "0.1.0"

structure Config where
  outputDir : Option String
  reportFile : String
  docstringLimit : Nat
  deriving DecidableEq, Repr

namespace Config

def defaultReportFile : String := "test-report.md"

def default : Config := ⟨none, defaultReportFile, Report.defaultDocstringLimit⟩

/-- The names of settings files, in the order in which they are looked for. -/
def fileNames : List String := ["testpilot.yaml", ".testpilot.yaml"]

def effectiveOutputDir (c : Config) : String := c.outputDir.getD "."

inductive Invalid where
  | emptyReportFile
  | unnamedReportFile (path : String)
  | zeroLimit
  deriving DecidableEq, Repr

def Invalid.message : Invalid → String
  | emptyReportFile => "report_file must not be empty"
  | unnamedReportFile path => "report_file must name a file, got " ++ Text.quoted path
  | zeroLimit => "docstring_limit must be greater than zero"

def invalid? (c : Config) : Option Invalid :=
  if Text.isBlankText c.reportFile then some .emptyReportFile
  else if (Path.fileName? c.reportFile).isNone then some (.unnamedReportFile c.reportFile)
  else if c.docstringLimit = 0 then some .zeroLimit
  else none

def template : String :=
  Text.joinWith "\n"
    ["# testpilot configuration",
      "#",
      "# Place this file in the project directory as testpilot.yaml (or",
      "# .testpilot.yaml), or pass it explicitly with --config.",
      "",
      "# Directory that receives the generated test file and report.",
      "# Defaults to the current directory when unset.",
      "# output_dir: tests",
      "",
      "# Name of the markdown coverage report. Overwritten on every run.",
      "report_file: test-report.md",
      "",
      "# Number of docstring characters shown per entry in the report before",
      "# the excerpt is cut and marked with \"...\".",
      "docstring_limit: 100",
      ""]

end Config

end Scaffold
