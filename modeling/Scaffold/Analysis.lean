import Scaffold.JavaScript.Outline
import Scaffold.Python.Outline
import Scaffold.Storage.Basic

namespace Scaffold

namespace Analysis

def outlined (o : Outline) : Log.Event :=
  ⟨.debug, "extracted " ++ o.language.tag ++ " model",
    [("path", .quoted o.path), ("functions", .number o.functions.length),
      ("classes", .number o.classes.length)]⟩

def outline? (language : Language) (path text : String) :
    Option (Logged (Except Python.SyntaxError Outline)) :=
  match language.outlinedAs? with
  | some .python =>
    match Python.outline path text with
    | .ok o => some ⟨.ok o, [outlined o]⟩
    | .error e => some ⟨.error e, []⟩
  | some _ =>
    let ⟨o, events⟩ := JavaScript.outline path text
    some ⟨.ok o, events ++ [outlined o]⟩
  | none => none

inductive Error where
  | unreadable (path : String) (cause : Storage.Fault)
  | unsupported (path : String) (language : Language)
  | malformed (path : String) (cause : Python.SyntaxError)
  deriving DecidableEq, Repr

def Error.message : Error → String
  | unreadable path cause => "cannot read " ++ path ++ ": " ++ cause.message
  | unsupported path language => "unsupported language '" ++ language.tag ++ "' for file " ++ path
  | malformed path cause => "syntax error in " ++ path ++ ": " ++ cause.message

def Error.chain : Error → List String
  | unreadable path cause => [(unreadable path cause).message, cause.message]
  | e => [e.message]

variable {m : Type → Type} [Monad m] [Storage m]

/-- The outline of a source file. Whether it can be read comes before what language it is in. -/
def outlineFile (path : String) : m (Except Error Outline) := do
  match ← Storage.readText path with
  | .error fault => return .error (.unreadable path fault)
  | .ok text =>
    match outline? (.ofPath path) path text with
    | none => return .error (.unsupported path (.ofPath path))
    | some ⟨result, events⟩ =>
      events.forM Storage.log
      match result with
      | .ok o => return .ok o
      | .error e => return .error (.malformed path e)

end Analysis

end Scaffold
