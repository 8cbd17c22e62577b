import Scaffold.Path
import Scaffold.Storage.Basic

namespace Scaffold.Storage

abbrev Location := List String

inductive Entry where
  | directory
  | file (content : ByteArray)
  | link (target : String)

structure Disk where
  entries : List (Location × Entry)
  here : Location

namespace Disk

/-- The entry at a location. The root is always there. -/
def get? (d : Disk) (l : Location) : Option Entry :=
  if l.isEmpty then some .directory else d.entries.lookup l

def setEntry (l : Location) (e : Entry) : List (Location × Entry) → List (Location × Entry)
  | [] => [(l, e)]
  | (k, old) :: rest => if k = l then (k, e) :: rest else (k, old) :: setEntry l e rest

def set (l : Location) (e : Entry) (d : Disk) : Disk := { d with entries := setEntry l e d.entries }

def erase (l : Location) (d : Disk) : Disk := { d with entries := d.entries.filter fun p => p.1 ≠ l }

/-- What a path is looked up for: what it leads to, a file to be written, or the entry itself, even if it
is a link. -/
inductive Purpose where
  | inspect
  | create
  | entry
  deriving DecidableEq, Repr

inductive Target where
  | found (location : Location) (entry : Entry)
  | vacant (location : Location)

inductive Progress where
  | arrived (target : Target)
  | failed (fault : Fault)
  | diverted (base : Location) (target : String) (rest : List String)

def nameLimit : Nat := 255

def pathLimit : Nat := 4096

def linkLimit : Nat := 40

def nameParts (path : String) : List String := (Text.split '/' path).filter fun p => p ≠ ""

def isSlashed (path : String) : Bool := path.toList.getLast? = some '/'

/-- Follow names from a directory, up to a link. -/
def descend (d : Disk) (purpose : Purpose) (slashed : Bool) : Location → List String → Progress
  | l, [] => .arrived (.found l .directory)
  | l, name :: rest =>
    if name = "." then descend d purpose slashed l rest
    else if name = ".." then descend d purpose slashed l.dropLast rest
    else if nameLimit < name.utf8ByteSize then .failed .nameTooLong
    else if rest.isEmpty && slashed && purpose = .create then .failed .isDirectory
    else
      let next := l ++ [name]
      match d.get? next with
      | none => if rest.isEmpty then .arrived (.vacant next) else .failed .notFound
      | some .directory => descend d purpose slashed next rest
      | some (.file content) =>
        if rest.isEmpty && !(slashed && purpose = .inspect) then .arrived (.found next (.file content))
        else .failed .notDirectory
      | some (.link target) =>
        if rest.isEmpty && purpose = .entry then .arrived (.found next (.link target))
        else .diverted l target rest

def follow (d : Disk) (purpose : Purpose) : Nat → Bool → Location → List String → Except Fault Target
  | links, slashed, l, names =>
    match d.descend purpose slashed l names with
    | .arrived target => .ok target
    | .failed fault => .error fault
    | .diverted base target rest =>
      match links with
      | 0 => .error .linkLoop
      | links + 1 =>
        follow d purpose links (slashed || (rest.isEmpty && isSlashed target))
          (if Path.isAbsolute target then [] else base) (nameParts target ++ rest)

def resolve (d : Disk) (purpose : Purpose) (path : String) : Except Fault Target :=
  if path.toList.contains '\x00' then .error .nullInName
  else if path = "" then .error .notFound
  else if pathLimit ≤ path.utf8ByteSize then .error .nameTooLong
  else
    d.follow purpose linkLimit (isSlashed path) (if Path.isAbsolute path then [] else d.here)
      (nameParts path)

def read (path : String) (d : Disk) : Except Fault ByteArray :=
  match d.resolve .inspect path with
  | .error fault => .error fault
  | .ok (.found _ (.file content)) => .ok content
  | .ok (.found _ _) => .error .isDirectory
  | .ok (.vacant _) => .error .notFound

def write (path : String) (content : ByteArray) (d : Disk) : Except Fault Disk :=
  match d.resolve .create path with
  | .error fault => .error fault
  | .ok (.found l (.file _)) => .ok (d.set l (.file content))
  | .ok (.found _ _) => .error .isDirectory
  | .ok (.vacant l) => .ok (d.set l (.file content))

def makeDir (path : String) (d : Disk) : Except Fault Disk :=
  match d.resolve .entry path with
  | .error fault => .error fault
  | .ok (.found _ _) => .error .alreadyExists
  | .ok (.vacant l) => .ok (d.set l .directory)

def makeLink (target path : String) (d : Disk) : Except Fault Disk :=
  match d.resolve .entry path with
  | .error fault => .error fault
  | .ok (.found _ _) => .error .alreadyExists
  | .ok (.vacant l) => if isSlashed path then .error .notFound else .ok (d.set l (.link target))

def remove (path : String) (d : Disk) : Except Fault Disk :=
  match d.resolve .entry path with
  | .error fault => .error fault
  | .ok (.found _ .directory) => .error .isDirectory
  | .ok (.found l _) => if isSlashed path then .error .notDirectory else .ok (d.erase l)
  | .ok (.vacant _) => .error .notFound

def isPresent (path : String) (d : Disk) : Bool :=
  match d.resolve .inspect path with
  | .ok (.found _ _) => true
  | _ => false

def isDirectory (path : String) (d : Disk) : Bool :=
  match d.resolve .inspect path with
  | .ok (.found _ .directory) => true
  | _ => false

def realPath? (path : String) (d : Disk) : Option String :=
  match d.resolve .inspect path with
  | .ok (.found l _) => some ("/" ++ Text.joinWith "/" l)
  | _ => none

def settle (path : String) (d : Disk) : Except Fault Disk → Disk × Except Fault Unit
  | .ok d => (d, .ok ())
  | .error fault => (d, if d.isDirectory path then .ok () else .error fault)

def makeDirsFrom : Nat → String → Disk → Disk × Except Fault Unit
  | 0, path, d => d.settle path (d.makeDir path)
  | fuel + 1, path, d =>
    if path = "" then (d, .ok ())
    else
      match d.makeDir path, Path.parent? path with
      | .error .notFound, some parent =>
        match makeDirsFrom fuel parent d with
        | (d, .ok ()) => d.settle path (d.makeDir path)
        | failed => failed
      | result, _ => d.settle path result

/-- Make a directory and those above it. What was made stays, even if not all could be. -/
def makeDirs (path : String) (d : Disk) : Disk × Except Fault Unit :=
  makeDirsFrom (path.length + 1) path d

def isWordBefore : List Char → List Char → Bool
  | [], _ => true
  | _ :: _, [] => false
  | a :: s, b :: t => if a = b then isWordBefore s t else decide (a.toNat < b.toNat)

def nameIn? (l k : Location) : Option String := if k.dropLast = l then k.getLast? else none

def names (d : Disk) (l : Location) : List String :=
  (d.entries.filterMap fun p => nameIn? l p.1).mergeSort fun s t => isWordBefore s.toList t.toList

/-- An entry of a directory, and after it what is told of its own entries. -/
def visit (d : Disk) (deeper : Location → List (Location × Entry)) (l : Location) (name : String) :
    List (Location × Entry) :=
  match d.get? (l ++ [name]) with
  | some .directory => ([name], .directory) :: (deeper (l ++ [name])).map fun p => (name :: p.1, p.2)
  | some e => [([name], e)]
  | none => []

/-- What is below a directory, down to so many levels. Each directory is followed by all that is in it. -/
def walk (d : Disk) : Nat → Location → List (Location × Entry)
  | 0, _ => []
  | levels + 1, l => (d.names l).flatMap (d.visit (d.walk levels) l)

def depth (d : Disk) : Nat := d.entries.foldr (fun p n => Nat.max p.1.length n) 0

def entriesBelow (l : Location) (d : Disk) : List (Location × Entry) := d.walk d.depth l

def Entry.isFile : Entry → Bool
  | .file _ => true
  | _ => false

/-- The files below a directory. Links are not followed. -/
def filesBelow (path : String) (d : Disk) : List Location :=
  match d.resolve .inspect path with
  | .ok (.found l .directory) => ((d.entriesBelow l).filter fun p => Entry.isFile p.2).map (·.1)
  | _ => []

def listing (d : Disk) : List String :=
  (d.entriesBelow d.here).map fun (l, e) =>
    Text.joinWith "/" l ++ (match e with | .directory => "/" | _ => "")

end Disk

abbrev OnDisk := StateT Disk Logged

namespace OnDisk

def update (f : Disk → Except Fault Disk) : OnDisk (Except Fault Unit) := fun d =>
  match f d with
  | .ok d => pure (.ok (), d)
  | .error fault => pure (.error fault, d)

instance : Storage OnDisk where
  read path := fun d => pure (d.read path, d)
  write path content := update (Disk.write path content)
  makeDirs path := fun d => let (d, result) := d.makeDirs path; pure (result, d)
  isPresent path := fun d => pure (d.isPresent path, d)
  isDirectory path := fun d => pure (d.isDirectory path, d)
  realPath? path := fun d => pure (d.realPath? path, d)
  filesBelow path := fun d => pure (d.filesBelow path, d)
  log event := fun d => ⟨((), d), [event]⟩

end OnDisk

end Scaffold.Storage
