import Scaffold.Config
import Scaffold.Yaml.Scalar

namespace Scaffold.Config

open Scaffold.Yaml

structure Given where
  outputDir : Option (Option String)
  reportFile : Option String
  docstringLimit : Option Nat

namespace Given

def nothing : Given := ⟨none, none, none⟩

/-- The settings that were given, and the defaults of the others. -/
def complete (g : Given) : Config :=
  ⟨g.outputDir.getD default.outputDir, g.reportFile.getD default.reportFile,
    g.docstringLimit.getD default.docstringLimit⟩

end Given

inductive Field where
  | outputDir
  | reportFile
  | docstringLimit
  deriving DecidableEq, Repr

def Field.name : Field → String
  | outputDir => "output_dir"
  | reportFile => "report_file"
  | docstringLimit => "docstring_limit"

def Field.ofName? (name : String) : Option Field :=
  [outputDir, reportFile, docstringLimit].find? fun f => f.name = name

def Given.has (g : Given) : Field → Bool
  | .outputDir => g.outputDir.isSome
  | .reportFile => g.reportFile.isSome
  | .docstringLimit => g.docstringLimit.isSome

def limitBound : Nat := Nat.pow 2 64

def target : Located → Located
  | (.reference e m, _) => (e, m)
  | located => located

/-- A limit is a plain number; a literal block has to be tagged as one. -/
def decodeLimit (path : String) (e : Event) (m : Mark) : Except DecodeError Nat :=
  let given := match e with
    | .scalar s style tag =>
      if style = .plain || (style = .literal && tag = some (standardTag "int")) then unsigned? limitBound s
      else none
    | _ => none
  match given with
  | some n => .ok n
  | none => .error (.mismatched path (.ofEvent "usize" e) m)

def decodeText (path expected : String) (e : Event) (m : Mark) : Except DecodeError String :=
  match e with
  | .scalar s _ _ => .ok s
  | e => .error (.mismatched path (.ofEvent expected e) m)

/-- A text, or nothing if a plain scalar says so. A mapping that began somewhere is to blame for a tag
that does not fit. -/
def decodeOptional (path expected : String) (since : Mark) (e : Event) (m : Mark) :
    Except DecodeError (Option String) :=
  match e with
  | .scalar s .plain none => .ok (if s = "" || isNull s then none else some s)
  | .scalar s .plain (some tag) =>
    if tag ≠ standardTag "null" then .ok (some s)
    else if isNull s then .ok none
    else .error (.mismatched none (.value (Meaning.text s).describe "null") since)
  | e => (decodeText path expected e m).map some

def decodeField (g : Given) (field : Field) (path : String) (since : Mark) (value : Located) :
    Except DecodeError Given :=
  let (e, m) := target value
  match field with
  | .outputDir => (decodeOptional path "path string" since e m).map fun v => { g with outputDir := some v }
  | .reportFile => (decodeText path "a string" e m).map fun v => { g with reportFile := some v }
  | .docstringLimit => (decodeLimit path e m).map fun v => { g with docstringLimit := some v }

/-- The events after a node, at a depth of collections. -/
def skipNode (depth : Nat) : List Located → Option (List Located)
  | [] => none
  | (e, _) :: rest =>
    match e with
    | .sequenceStart | .mappingStart => skipNode (depth + 1) rest
    | .sequenceEnd | .mappingEnd => if depth ≤ 1 then some rest else skipNode (depth - 1) rest
    | .scalar .. | .reference .. => if depth = 0 then some rest else skipNode depth rest

def decodeKey (key : Located) : Except DecodeError (String × String) :=
  match key with
  | (.scalar s _ _, _) => .ok (s, s)
  | key =>
    match target key with
    | (.scalar s _ _, _) => .ok (s, "?")
    | (e, m) => .error (.mismatched none (.ofEvent "field identifier" e) m)

def decodeEntries (missing : DecodeError) (since : Mark) :
    Nat → Given → List Located → Except DecodeError Given
  | 0, _, _ => .error missing
  | _, _, [] => .error missing
  | fuel + 1, g, key :: rest =>
    if key.1 = .mappingEnd then .ok g
    else do
      let (name, path) ← decodeKey key
      match Field.ofName? name with
      | some field =>
        if g.has field then .error (.mismatched none (.repeatedField name) since)
        else
          match rest with
          | [] => .error missing
          | value :: rest => do
            let g ← decodeField g field path since value
            decodeEntries missing since fuel g rest
      | none =>
        match skipNode 0 rest with
        | some rest => decodeEntries missing since fuel g rest
        | none => .error missing

def decodeDocument (d : Document) : Except DecodeError Config := do
  let missing := d.flaw.elim .ended .flawed
  let given ← match d.events with
    | [] => if d.flaw.isSome then .error missing else pure Given.nothing
    | (.mappingStart, since) :: entries => decodeEntries missing since d.events.length .nothing entries
    | (.scalar "" .plain _, _) :: _ => pure .nothing
    | (e, m) :: _ => .error (.mismatched none (.ofEvent "struct Config" e) m)
  if d.flaw.isSome then .error missing
  else if d.more then .error .severalDocuments
  else return given.complete

inductive ParseError where
  | yaml (cause : DecodeError)
  | invalid (cause : Invalid)
  deriving DecidableEq, Repr

def ParseError.message : ParseError → String
  | yaml cause => cause.message
  | invalid cause => cause.message

def parse (text : String) : Except ParseError Config :=
  if Text.isBlankText text then .ok default
  else
    match decodeDocument (document text) with
    | .error cause => .error (.yaml cause)
    | .ok config =>
      match config.invalid? with
      | some cause => .error (.invalid cause)
      | none => .ok config

end Scaffold.Config
