import Scaffold.Text.Split

namespace Scaffold.Path

inductive Component where
  | root
  | current
  | parent
  | name (text : String)
  deriving DecidableEq, Repr

def isAbsolute (path : String) : Bool := path.toList.head? == some '/'

def ofPart (part : String) : Option Component :=
  if part = "" || part = "." then none
  else if part = ".." then some .parent
  else some (.name part)

/-- The components of a path. A leading `.` is one of them only if the path begins with it. -/
def components (path : String) : List Component :=
  let parts := Text.split '/' path
  let opening := if isAbsolute path then [.root] else if parts.head? = some "." then [.current] else []
  opening ++ parts.filterMap ofPart

def fileName? (path : String) : Option String :=
  match (components path).getLast? with
  | some (.name text) => some text
  | _ => none

/-- What stands before and after the last dot of a file name. A dot that begins the name does not
divide it if it is the only one. -/
def splitName (name : String) : String × Option String :=
  match (Text.splitChars '.' name.toList).reverse with
  | after :: before :: rest =>
    let stem := Text.joinWith "." ((before :: rest).reverse.map String.ofList)
    if stem = "" then (name, none) else (stem, some (String.ofList after))
  | _ => (name, none)

def stem? (path : String) : Option String := (fileName? path).map fun n => (splitName n).1

def extension? (path : String) : Option String := (fileName? path).bind fun n => (splitName n).2

def join (base path : String) : String :=
  if isAbsolute path then path
  else
    let last := base.toList.getLast?
    if last = none || last = some '/' then base ++ path else base ++ "/" ++ path

private def trimEnd (parts : List String) : List String :=
  (parts.reverse.dropWhile fun p => p = "" || p = ".").reverse

def parent? (path : String) : Option String :=
  match (components path).getLast? with
  | none | some .root => none
  | some .current => some ""
  | some _ =>
    let parts := trimEnd (Text.split '/' path)
    let kept := trimEnd parts.dropLast
    if kept.isEmpty then
      match (components path) with
      | .root :: _ => some "/"
      | .current :: _ => some "."
      | _ => some ""
    else some (Text.joinWith "/" kept)

end Scaffold.Path
