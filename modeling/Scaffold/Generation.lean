import Scaffold.Analysis
import Scaffold.Config
import Scaffold.Naming
import Scaffold.Report.Json
import Scaffold.Stub.Convention

namespace Scaffold.Generation

structure Outcome where
  outline : Outline
  convention : Convention
  testFile : String
  reportFile : String
  deriving DecidableEq, Repr

inductive Error where
  | analysis (cause : Analysis.Error)
  | noConvention (language : Language)
  | directory (path : String) (cause : Storage.Fault)
  | testFile (path : String) (cause : Storage.Fault)
  | reportFile (path : String) (cause : Storage.Fault)
  deriving DecidableEq, Repr

def Error.chain : Error → List String
  | analysis cause => cause.chain
  | noConvention language => ["no test convention for language '" ++ language.tag ++ "'"]
  | directory path cause => ["creating output directory " ++ path, cause.message]
  | testFile path cause => ["writing test file " ++ path, cause.message]
  | reportFile path cause => ["writing report " ++ path, cause.message]

def Error.message (e : Error) : String := Text.joinWith ": " e.chain

def written (o : Outcome) : Log.Event :=
  ⟨.debug, "wrote generated files",
    [("convention", .quoted o.convention.tag), ("test_file", .plain o.testFile),
      ("report_file", .plain o.reportFile)]⟩

def outcomeOf (config : Config) (outline : Outline) (convention : Convention) : Outcome where
  outline := outline
  convention := convention
  testFile := Path.join config.effectiveOutputDir (Naming.testFile outline.path outline.language)
  reportFile := Path.join config.effectiveOutputDir config.reportFile

variable {m : Type → Type} [Monad m] [Storage m]

def writeFiles (config : Config) (o : Outcome) : m (Except Error Outcome) := do
  let dir := config.effectiveOutputDir
  match ← Storage.makeDirs dir with
  | .error fault => return .error (.directory dir fault)
  | .ok () =>
    match ← Storage.writeText o.testFile (o.convention.render o.outline) with
    | .error fault => return .error (.testFile o.testFile fault)
    | .ok () =>
      match ← Storage.writeText o.reportFile (Report.Markdown.render config.docstringLimit o.outline) with
      | .error fault => return .error (.reportFile o.reportFile fault)
      | .ok () =>
        Storage.log (written o)
        return .ok o

def generate (config : Config) (path : String) : m (Except Error Outcome) := do
  match ← Analysis.outlineFile path with
  | .error e => return .error (.analysis e)
  | .ok outline =>
    match Convention.ofLanguage? outline.language with
    | none => return .error (.noConvention outline.language)
    | some convention => writeFiles config (outcomeOf config outline convention)

end Scaffold.Generation
