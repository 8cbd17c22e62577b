import Scaffold.Command.Run

namespace Scaffold.Main

open Scaffold.Storage

abbrev Terminal := ReaderT Bool IO

def faultOf : IO.Error → Fault
  | .noFileOrDirectory .. => .notFound
  | .alreadyExists .. => .alreadyExists
  | .inappropriateType _ code _ => if code = 20 then .notDirectory else .isDirectory
  | e => .other e.toString

def guarded {α : Type} (action : IO α) : Terminal (Except Fault α) := fun _ => do
  match ← action.toBaseIO with
  | .ok a => return .ok a
  | .error e => return .error (faultOf e)

def typeAt? (path : String) : Terminal (Option IO.FS.FileType) := fun _ => do
  match ← (do return (← (← IO.FS.realPath path).metadata).type : IO IO.FS.FileType).toBaseIO with
  | .ok type => return some type
  | .error _ => return none

partial def walk (path : String) (names : List String) : IO (List (List String)) := do
  let found ← (← IO.FS.realPath path).readDir
  let sorted := found.toList.mergeSort fun a b => a.fileName ≤ b.fileName
  let files ← sorted.mapM fun entry => do
    let here := names ++ [entry.fileName]
    match (← entry.path.symlinkMetadata).type with
    | .dir => walk entry.path.toString here
    | .file => pure [here]
    | _ => pure []
  return files.flatten

instance : Storage Terminal where
  read path := guarded (IO.FS.readBinFile path)
  write path content := guarded (IO.FS.writeBinFile path content)
  makeDirs path := if path = "" then pure (.ok ()) else guarded (IO.FS.createDirAll path)
  isPresent path := do return (← typeAt? path).isSome
  isDirectory path := do
    match ← typeAt? path with
    | some .dir => return true
    | _ => return false
  realPath? path := do
    match ← guarded (IO.FS.realPath path) with
    | .ok real => return some real.toString
    | .error _ => return none
  filesBelow path := do
    match ← guarded (walk path []) with
    | .ok files => return files
    | .error _ => return []
  log event := fun verbose =>
    if verbose || event.level = .warn then IO.eprintln event.render else pure ()

def userFile? : IO (Option String) := do
  let settings ← IO.getEnv "XDG_CONFIG_HOME"
  let home ← IO.getEnv "HOME"
  return ((settings.filter Path.isAbsolute).or (home.map fun h => Path.join h ".config")).map Config.userFile

end Scaffold.Main

open Scaffold in
def main (args : List String) : IO UInt32 := do
  match Command.parse args with
  | .error e =>
    if e.isAnswer then IO.print e.message else IO.eprint e.message
    return e.exitCode.toUInt32
  | .ok invocation =>
    let colored := (← (← IO.getStdout).isTty) && (← IO.getEnv "NO_COLOR").isNone
    let env : Command.Surroundings := ⟨← Main.userFile?, colored⟩
    let outcome ← (Command.run (m := Main.Terminal) env invocation.command) invocation.verbose
    IO.print outcome.stdout
    IO.eprint outcome.stderr
    return outcome.exitCode.toUInt32
