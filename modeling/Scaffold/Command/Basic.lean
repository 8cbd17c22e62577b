import Scaffold.Command.Parser

namespace Scaffold

structure GenerateArgs where
  path : String
  outputDir : Option String
  config : Option String
  format : String
  deriving DecidableEq, Repr

structure InitArgs where
  output : String
  deriving DecidableEq, Repr

structure PackageArgs where
  path : String
  output : Option String
  folder : Option String
  deriving DecidableEq, Repr

inductive Command where
  | generate (args : GenerateArgs)
  | init (args : InitArgs)
  | package (args : PackageArgs)
  deriving DecidableEq, Repr

structure Invocation where
  command : Command
  verbose : Bool
  deriving DecidableEq, Repr

namespace Command

def levelOf (name : String) : Level :=
  if name = "generate" then generateLevel
  else if name = "init" then initLevel
  else if name = "package" then packageLevel
  else helpLevel

def explain (l : Level) : List String → UsageError
  | [] => .help l
  | name :: rest =>
    match l.command? name with
    | some e => explain (levelOf e.name) rest
    | none => .unknownCommand l name

def requireOperand (l : Level) (r : Reading) : Except UsageError String :=
  match r.operand, l.operand with
  | some path, _ => .ok path
  | none, some o => .error (.operandMissing l (r.values.map (·.1)) o)
  | none, none => .ok ""

def ofReading (name : String) (r : Reading) : Except UsageError Command :=
  if name = "generate" then do
    let path ← requireOperand generateLevel r
    return .generate ⟨path, r.value? generateLevel "output-dir", r.value? generateLevel "config",
      (r.value? generateLevel "format").getD ""⟩
  else if name = "init" then .ok (.init ⟨(r.value? initLevel "output").getD ""⟩)
  else do
    let path ← requireOperand packageLevel r
    return .package ⟨path, r.value? packageLevel "output", r.value? packageLevel "prefix"⟩

def parse (args : List String) : Except UsageError Invocation := do
  let (top, next) ← Reading.readLevel topLevel args .start
  match next with
  | none => .error (if top.verbose then .commandMissing topLevel else .nothing topLevel)
  | some (e, rest) =>
    if e.name = "help" then .error (explain topLevel rest)
    else
      let (r, _) ← Reading.readLevel (levelOf e.name) rest .start
      let command ← ofReading e.name r
      return ⟨command, top.verbose || r.verbose⟩

end Command

end Scaffold
