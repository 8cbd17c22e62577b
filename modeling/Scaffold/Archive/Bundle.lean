import Scaffold.Archive.Zip
import Scaffold.Path
import Scaffold.Storage.Basic

namespace Scaffold.Archive

inductive Error where
  | notDirectory (path : String)
  | creating (path : String) (cause : Storage.Fault)
  | reading (path : String) (cause : Storage.Fault)
  | finishing (path : String) (cause : Storage.Fault)
  deriving DecidableEq, Repr

def Error.chain : Error → List String
  | notDirectory path => ["not a directory: " ++ path]
  | creating path cause => ["creating archive " ++ path, cause.message]
  | reading path cause => ["reading " ++ path, cause.message]
  | finishing path cause => ["finishing archive " ++ path, cause.message]

def Error.message (e : Error) : String := Text.joinWith ": " e.chain

def trimSlashes (s : String) : String :=
  String.ofList ((s.toList.dropWhile (· = '/')).reverse.dropWhile (· = '/')).reverse

/-- The name of a file in an archive: the names on the way to it, below the folder if it has a name. -/
def entryName (folder : String) (names : List String) : String :=
  Text.joinWith "/" ((trimSlashes folder :: names).filter fun p => p ≠ "")

def archived (name : String) : Log.Event := ⟨.debug, "archived file", [("entry", .plain name)]⟩

variable {m : Type → Type} [Monad m] [Storage m]

/-- The entries for files below a directory. The file of the archive itself is left out. -/
def entriesFor (dir folder : String) (archive : Option String) :
    List (List String) → m (Except Error (List Entry))
  | [] => return .ok []
  | names :: rest => do
    let path := names.foldl Path.join dir
    let real ← Storage.realPath? path
    if archive.isSome && real = archive then entriesFor dir folder archive rest
    else
      match ← Storage.read path with
      | .error fault => return .error (.reading path fault)
      | .ok content =>
        let name := entryName folder names
        Storage.log (archived name)
        match ← entriesFor dir folder archive rest with
        | .error e => return .error e
        | .ok entries => return .ok (⟨name, content⟩ :: entries)

/-- Bundle a directory and count its files. The archive is begun before the files are read. -/
def bundle (dir output folder : String) : m (Except Error Nat) := do
  if !(← Storage.isDirectory dir) then return .error (.notDirectory dir)
  else
    match ← Storage.write output .empty with
    | .error fault => return .error (.creating output fault)
    | .ok () =>
      let archive ← Storage.realPath? output
      match ← entriesFor dir folder archive (← Storage.filesBelow dir) with
      | .error e => return .error e
      | .ok entries =>
        match ← Storage.write output (Zip.encode entries) with
        | .error fault => return .error (.finishing output fault)
        | .ok () => return .ok entries.length

end Scaffold.Archive
