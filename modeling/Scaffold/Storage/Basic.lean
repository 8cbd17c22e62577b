import Scaffold.Log

namespace Scaffold.Storage

inductive Fault where
  | notFound
  | alreadyExists
  | notDirectory
  | isDirectory
  | nameTooLong
  | linkLoop
  | nullInName
  | notText
  | other (text : String)
  deriving DecidableEq, Repr

def Fault.message : Fault → String
  | notFound => "No such file or directory (os error 2)"
  | alreadyExists => "File exists (os error 17)"
  | notDirectory => "Not a directory (os error 20)"
  | isDirectory => "Is a directory (os error 21)"
  | nameTooLong => "File name too long (os error 36)"
  | linkLoop => "Too many levels of symbolic links (os error 40)"
  | nullInName => "file name contained an unexpected NUL byte"
  | notText => "stream did not contain valid UTF-8"
  | other text => text

end Scaffold.Storage

namespace Scaffold

/-- Files and directories, by the texts of their paths. Everything a run does outside of itself goes
through here, and so does what it has to say about it. -/
class Storage (m : Type → Type) where
  read : String → m (Except Storage.Fault ByteArray)
  write : String → ByteArray → m (Except Storage.Fault Unit)
  makeDirs : String → m (Except Storage.Fault Unit)
  isPresent : String → m Bool
  isDirectory : String → m Bool
  realPath? : String → m (Option String)
  filesBelow : String → m (List (List String))
  log : Log.Event → m Unit

namespace Storage

variable {m : Type → Type} [Monad m] [Storage m]

def readText (path : String) : m (Except Fault String) := do
  match ← read path with
  | .error fault => return .error fault
  | .ok bytes =>
    match String.fromUTF8? bytes with
    | some text => return .ok text
    | none => return .error .notText

def writeText (path text : String) : m (Except Fault Unit) := write path text.toUTF8

end Storage

end Scaffold
