import Scaffold.Command.Usage

namespace Scaffold.Command

inductive Pending where
  | argument (a : Argument) (value : Option String)
  | operand (o : Operand) (value : String)
  deriving DecidableEq, Repr

structure Reading where
  verbose : Bool
  values : List (Argument × String)
  operand : Option String
  pending : Option Pending
  onlyOperands : Bool
  deriving DecidableEq, Repr

namespace Reading

def start : Reading := ⟨false, [], none, none, false⟩

def value? (r : Reading) (l : Level) (long : String) : Option String :=
  match r.values.find? fun p => p.1.long = long with
  | some (_, v) => some v
  | none =>
    match l.long? long with
    | some ⟨_, _, .value _ _ preset, _⟩ => preset
    | _ => none

def has (r : Reading) (a : Argument) : Bool := r.values.any fun p => p.1 = a

/-- Take a value for an argument. It is taken once, and as a path it is not empty. -/
def take (l : Level) (a : Argument) (value : String) (r : Reading) : Except UsageError Reading :=
  match a.action with
  | .value _ isPath _ =>
    if r.has a then .error (.repeated l a.display)
    else if isPath && value = "" then .error (.valueMissing a.display)
    else .ok { r with values := r.values ++ [(a, value)] }
  | _ => .ok r

def settle (l : Level) (r : Reading) : Except UsageError Reading :=
  let settled := { r with pending := none }
  match r.pending with
  | none => .ok r
  | some (.argument a none) => .error (.valueMissing a.display)
  | some (.argument a (some value)) => settled.take l a value
  | some (.operand o value) =>
    if value = "" then .error (.valueMissing o.display) else .ok { settled with operand := some value }

def raise (l : Level) (a : Argument) (r : Reading) : Except UsageError Reading := do
  let r ← r.settle l
  match a.action with
  | .help => .error (.help l)
  | .version => .error .version
  | .verbose => if r.verbose then .error (.repeated l a.display) else return { r with verbose := true }
  | .value .. => return r

def attach (l : Level) (a : Argument) (value : String) (r : Reading) : Except UsageError Reading := do
  (← r.settle l).take l a value

def await (l : Level) (a : Argument) (r : Reading) : Except UsageError Reading := do
  return { ← r.settle l with pending := some (.argument a none) }

def takesValue (a : Argument) : Bool :=
  match a.action with
  | .value .. => true
  | _ => false

def readLong (l : Level) (text : List Char) (r : Reading) : Except UsageError Reading :=
  let name := text.takeWhile (· ≠ '=')
  let value := if name.length < text.length then some (String.ofList (text.drop (name.length + 1))) else none
  match l.long? (String.ofList name), value with
  | none, _ => .error (.unknownFlag l ("--" ++ String.ofList name))
  | some a, some value =>
    if takesValue a then r.attach l a value else .error (.needlessValue l a.display value)
  | some a, none => if takesValue a then r.await l a else r.raise l a

/-- Read short arguments one after another. The first one with a value takes the rest as its value, without
an equals sign before it. -/
def readShort (l : Level) : List Char → Reading → Except UsageError Reading
  | [], r => .ok r
  | c :: rest, r =>
    match l.short? c with
    | none => .error (.unknownFlag l (String.ofList ['-', c]))
    | some a =>
      if takesValue a then
        match rest with
        | [] => r.await l a
        | '=' :: value => r.attach l a (String.ofList value)
        | value => r.attach l a (String.ofList value)
      else
        match r.raise l a with
        | .ok r => readShort l rest r
        | .error e => .error e

def awaitsValue (r : Reading) : Bool :=
  match r.pending with
  | some (.argument _ none) => true
  | _ => false

def hasOperand (r : Reading) : Bool :=
  r.operand.isSome ||
    match r.pending with
    | some (.operand ..) => true
    | _ => false

def misplaced (l : Level) (text : String) (r : Reading) : UsageError :=
  if l.commands.isEmpty then .unexpected l text
  else if r.onlyOperands && (l.command? text).isSome then .needlessDashes l text
  else .unknownCommand l text

def readOperand (l : Level) (text : String) (r : Reading) : Except UsageError Reading :=
  match l.operand, r.hasOperand with
  | some o, false => do return { ← r.settle l with pending := some (.operand o text) }
  | _, _ => .error (r.misplaced l text)

def readText (l : Level) (text : String) (r : Reading) : Except UsageError Reading :=
  if r.onlyOperands then r.readOperand l text
  else
    match text.toList with
    | ['-', '-'] => .ok { r with onlyOperands := true }
    | '-' :: '-' :: long => r.readLong l long
    | '-' :: c :: more => readShort l (c :: more) r
    | _ =>
      match r.pending with
      | some (.argument a none) => .ok { r with pending := some (.argument a (some text)) }
      | _ => r.readOperand l text

def readLevel (l : Level) : List String → Reading → Except UsageError (Reading × Option (Entry × List String))
  | [], r => (r.settle l).map fun r => (r, none)
  | text :: rest, r =>
    match if r.onlyOperands || r.awaitsValue then none else l.command? text with
    | some e => (r.settle l).map fun r => (r, some (e, rest))
    | none =>
      match r.readText l text with
      | .ok r => readLevel l rest r
      | .error e => .error e

end Reading

end Scaffold.Command
