import Scaffold.Config
import Scaffold.Config.Decode
import Scaffold.Storage.Basic

namespace Scaffold.Config

inductive FileError where
  | unreadable (cause : Storage.Fault)
  | malformed (cause : ParseError)
  deriving DecidableEq, Repr

def FileError.message : FileError → String
  | unreadable cause => cause.message
  | malformed cause => cause.message

structure LoadError where
  path : String
  cause : FileError
  deriving DecidableEq, Repr

def LoadError.summary (e : LoadError) : String := "parsing config " ++ e.path

def LoadError.message (e : LoadError) : String := e.summary ++ ": " ++ e.cause.message

def discovered (path : String) : Log.Event := ⟨.debug, "using discovered config", [("path", .plain path)]⟩

def userFile (settings : String) : String := Path.join (Path.join settings programName) "config.yaml"

variable {m : Type → Type} [Monad m] [Storage m]

def ofFile (path : String) : m (Except FileError Config) := do
  match ← Storage.readText path with
  | .error fault => return .error (.unreadable fault)
  | .ok text =>
    match parse text with
    | .error e => return .error (.malformed e)
    | .ok config => return .ok config

def firstPresent? : List String → m (Option String)
  | [] => return none
  | path :: rest => do if ← Storage.isPresent path then return some path else firstPresent? rest

def discover? (user : Option String) : m (Option String) := firstPresent? (fileNames ++ user.toList)

def loadFile (path : String) : m (Except LoadError Config) := do
  match ← ofFile path with
  | .error e => return .error ⟨path, e⟩
  | .ok config => return .ok config

/-- The settings of a file that is named, or of the first one that is found, or the default ones. -/
def load (user named : Option String) : m (Except LoadError Config) := do
  match named with
  | some path => loadFile path
  | none =>
    match ← discover? user with
    | none => return .ok default
    | some path =>
      Storage.log (discovered path)
      loadFile path

end Scaffold.Config
