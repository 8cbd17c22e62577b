import Scaffold.Yaml.Scanner

namespace Scaffold.Yaml

inductive Event where
  | scalar (text : String) (style : Style) (tag : Option String)
  | sequenceStart
  | sequenceEnd
  | mappingStart
  | mappingEnd
  | reference (target : Event) (place : Mark)
  deriving DecidableEq, Repr

abbrev Located := Event × Mark

structure Document where
  events : List Located
  flaw : Option Flaw
  more : Bool

inductive Expecting where
  | blockEntry (since : Mark)
  | indentlessEntry
  | blockKey (since : Mark)
  | blockValue (since : Mark)
  | flowEntry (first : Bool) (since : Mark)
  | pairKey
  | pairValue
  | pairEnd
  | flowKey (first : Bool) (since : Mark)
  | flowValue
  | flowEmptyValue
  deriving DecidableEq, Repr

structure EventReader where
  tokens : List Token
  flaw : Option Flaw
  stack : List Expecting
  events : List Located
  anchors : List (String × Located)
  handles : List (String × String)

namespace EventReader

def peek (r : EventReader) : Read Token :=
  match r.tokens with
  | t :: _ => .ok t
  | [] => .error (r.flaw.getD (.malformed .endOfText .start none))

def skip (r : EventReader) : EventReader := { r with tokens := r.tokens.drop 1 }

def push (e : Expecting) (r : EventReader) : EventReader := { r with stack := e :: r.stack }

def emit (e : Event) (m : Mark) (r : EventReader) : EventReader := { r with events := (e, m) :: r.events }

def emitEmpty (m : Mark) (r : EventReader) : EventReader := r.emit (.scalar "" .plain none) m

def emitNamed (anchor : Option String) (e : Event) (m : Mark) (r : EventReader) : EventReader :=
  let r := r.emit e m
  match anchor with
  | some name => { r with anchors := (name, e, m) :: r.anchors }
  | none => r

structure Properties where
  anchor : Option String
  tag : Option (String × String × Mark)

def readProperties (r : EventReader) : Read (Properties × EventReader) := do
  let first ← r.peek
  match first.lexeme with
  | .anchor name =>
    let second ← r.skip.peek
    match second.lexeme with
    | .tag handle suffix => return (⟨some name, some (handle, suffix, second.start)⟩, r.skip.skip)
    | _ => return (⟨some name, none⟩, r.skip)
  | .tag handle suffix =>
    let second ← r.skip.peek
    match second.lexeme with
    | .anchor name => return (⟨some name, some (handle, suffix, first.start)⟩, r.skip.skip)
    | _ => return (⟨none, some (handle, suffix, first.start)⟩, r.skip)
  | _ => return (⟨none, none⟩, r)

def fullTag (since : Mark) (r : EventReader) : Option (String × String × Mark) → Read (Option String)
  | none => .ok none
  | some (handle, suffix, place) =>
    if handle = "" then .ok (some suffix)
    else
      match r.handles.lookup handle with
      | some expansion => .ok (some (expansion ++ suffix))
      | none => flawIn .node since .undefinedHandle place

/-- Read the content of a node with its properties. Blocks count only in a block, and a sequence may
begin without indentation in some places. -/
def readContent (inBlock indentless : Bool) (since : Mark) (anchor tag : Option String) (r : EventReader) :
    Read EventReader := do
  let t ← r.peek
  match t.lexeme, inBlock, indentless with
  | .blockEntry, _, true => return (r.emitNamed anchor .sequenceStart since).push .indentlessEntry
  | .scalar text style, _, _ =>
    return r.skip.emitNamed anchor (.scalar text style (if tag = some "!" then none else tag)) since
  | .flowSequenceStart, _, _ =>
    return (r.skip.emitNamed anchor .sequenceStart since).push (.flowEntry true t.start)
  | .flowMappingStart, _, _ =>
    return (r.skip.emitNamed anchor .mappingStart since).push (.flowKey true t.start)
  | .blockSequenceStart, true, _ =>
    return (r.skip.emitNamed anchor .sequenceStart since).push (.blockEntry t.start)
  | .blockMappingStart, true, _ =>
    return (r.skip.emitNamed anchor .mappingStart since).push (.blockKey t.start)
  | _, _, _ =>
    if anchor.isSome || tag.isSome then return r.emitNamed anchor (.scalar "" .plain tag) since
    else flawIn (if inBlock then .blockNode else .flowNode) since .contentMissing t.start

def readNode (inBlock indentless : Bool) (r : EventReader) : Read EventReader := do
  let t ← r.peek
  match t.lexeme with
  | .reference name =>
    match r.anchors.lookup name with
    | some (e, m) => return r.skip.emit (.reference e m) t.start
    | none => .error (.undefinedAlias t.start)
  | _ =>
    let (properties, after) ← r.readProperties
    let tag ← r.fullTag t.start properties.tag
    after.readContent inBlock indentless t.start properties.anchor tag

/-- Read a node of a collection, or an empty one if the next token belongs to the collection. -/
def readMember (closers : List Lexeme) (inBlock indentless : Bool) (next : Expecting) (empty : Mark)
    (r : EventReader) : Read EventReader := do
  let t ← r.peek
  if closers.contains t.lexeme then return (r.push next).emitEmpty empty
  else (r.push next).readNode inBlock indentless

def readBlockEntry (since : Mark) (r : EventReader) : Read EventReader := do
  let t ← r.peek
  match t.lexeme with
  | .blockEntry => r.skip.readMember [.blockEntry, .blockEnd] true false (.blockEntry since) t.stop
  | .blockEnd => return r.skip.emit .sequenceEnd t.start
  | _ => flawIn .blockCollection since .dashMissing t.start

def readIndentlessEntry (r : EventReader) : Read EventReader := do
  let t ← r.peek
  match t.lexeme with
  | .blockEntry =>
    r.skip.readMember [.blockEntry, .key, .value, .blockEnd] true false .indentlessEntry t.stop
  | _ => return r.emit .sequenceEnd t.start

def readBlockKey (since : Mark) (r : EventReader) : Read EventReader := do
  let t ← r.peek
  match t.lexeme with
  | .key => r.skip.readMember [.key, .value, .blockEnd] true true (.blockValue since) t.stop
  | .blockEnd => return r.skip.emit .mappingEnd t.start
  | _ => flawIn .blockMapping since .keyMissing t.start

def readBlockValue (since : Mark) (r : EventReader) : Read EventReader := do
  let t ← r.peek
  match t.lexeme with
  | .value => r.skip.readMember [.key, .value, .blockEnd] true true (.blockKey since) t.stop
  | _ => return (r.push (.blockKey since)).emitEmpty t.start

def skipComma (first : Bool) (activity : Activity) (since : Mark) (problem : Problem) (r : EventReader) :
    Read EventReader := do
  if first then return r
  else
    let t ← r.peek
    if t.lexeme = .flowEntry then return r.skip else flawIn activity since problem t.start

def readFlowEntry (first : Bool) (since : Mark) (r : EventReader) : Read EventReader := do
  let t ← r.peek
  if t.lexeme = .flowSequenceEnd then return r.skip.emit .sequenceEnd t.start
  else
    let r ← r.skipComma first .flowSequence since .sequenceSeparatorMissing
    let t ← r.peek
    match t.lexeme with
    | .key => return ((r.skip.push (.flowEntry false since)).push .pairKey).emit .mappingStart t.start
    | .flowSequenceEnd => return r.skip.emit .sequenceEnd t.start
    | _ => (r.push (.flowEntry false since)).readNode false false

def readPairKey (r : EventReader) : Read EventReader := do
  let t ← r.peek
  if [Lexeme.value, .flowEntry, .flowSequenceEnd].contains t.lexeme then
    return (r.skip.push .pairValue).emitEmpty t.stop
  else (r.push .pairValue).readNode false false

def readPairValue (r : EventReader) : Read EventReader := do
  let t ← r.peek
  match t.lexeme with
  | .value =>
    let next ← r.skip.peek
    r.skip.readMember [.flowEntry, .flowSequenceEnd] false false .pairEnd next.start
  | _ => return (r.push .pairEnd).emitEmpty t.start

def readPairEnd (r : EventReader) : Read EventReader := do
  let t ← r.peek
  return r.emit .mappingEnd t.start

def readFlowKey (first : Bool) (since : Mark) (r : EventReader) : Read EventReader := do
  let t ← r.peek
  if t.lexeme = .flowMappingEnd then return r.skip.emit .mappingEnd t.start
  else
    let r ← r.skipComma first .flowMapping since .mappingSeparatorMissing
    let t ← r.peek
    let again := r.push (.flowKey false since)
    match t.lexeme with
    | .key =>
      let next ← r.skip.peek
      again.skip.readMember [.value, .flowEntry, .flowMappingEnd] false false .flowValue next.start
    | .flowMappingEnd => return r.skip.emit .mappingEnd t.start
    | _ => (again.push .flowEmptyValue).readNode false false

def readFlowValue (r : EventReader) : Read EventReader := do
  let t ← r.peek
  match t.lexeme with
  | .value =>
    let next ← r.skip.peek
    if [Lexeme.flowEntry, .flowMappingEnd].contains next.lexeme then return r.skip.emitEmpty next.start
    else r.skip.readNode false false
  | _ => return r.emitEmpty t.start

def readFlowEmptyValue (r : EventReader) : Read EventReader := do
  let t ← r.peek
  return r.emitEmpty t.start

def readNext (e : Expecting) (r : EventReader) : Read EventReader :=
  match e with
  | .blockEntry since => r.readBlockEntry since
  | .indentlessEntry => r.readIndentlessEntry
  | .blockKey since => r.readBlockKey since
  | .blockValue since => r.readBlockValue since
  | .flowEntry first since => r.readFlowEntry first since
  | .pairKey => r.readPairKey
  | .pairValue => r.readPairValue
  | .pairEnd => r.readPairEnd
  | .flowKey first since => r.readFlowKey first since
  | .flowValue => r.readFlowValue
  | .flowEmptyValue => r.readFlowEmptyValue

/-- Read until nothing is expected, or up to a flaw. -/
def run : Nat → EventReader → EventReader × Option Flaw
  | 0, r => (r, some (.malformed .endOfText .start none))
  | fuel + 1, r =>
    match r.stack with
    | [] => (r, none)
    | e :: stack =>
      match { r with stack }.readNext e with
      | .ok r => run fuel r
      | .error flaw => (r, some flaw)

def standardHandles : List (String × String) := [("!", "!"), ("!!", "tag:yaml.org,2002:")]

def readDirectives : Nat → Bool → EventReader → Read EventReader
  | 0, _, r => .ok r
  | fuel + 1, versioned, r => do
    let t ← r.peek
    match t.lexeme with
    | .version major minor =>
      if versioned then flawAt .repeatedVersion t.start
      else if major = 1 && (minor = 1 || minor = 2) then readDirectives fuel true r.skip
      else flawAt .wrongVersion t.start
    | .handle name expansion =>
      if (r.handles.lookup name).isSome then flawAt .repeatedHandle t.start
      else readDirectives fuel versioned { r.skip with handles := r.handles ++ [(name, expansion)] }
    | _ => return r

def withStandardHandles (r : EventReader) : EventReader := { r with handles := r.handles ++ standardHandles }

def readRoot (r : EventReader) : Read EventReader := do
  let t ← r.peek
  match t.lexeme with
  | .version .. | .handle .. | .documentStart | .documentEnd | .streamEnd => return r.emitEmpty t.start
  | _ => r.readNode true false

def readStart (r : EventReader) : Read EventReader := do
  let t ← r.peek
  match t.lexeme with
  | .streamEnd => return r
  | .version .. | .handle .. | .documentStart =>
    let r ← r.readDirectives (r.tokens.length + 1) false
    let t ← r.peek
    if t.lexeme = .documentStart then r.skip.withStandardHandles.readRoot
    else flawAt .documentStartMissing t.start
  | _ => r.withStandardHandles.readNode true false

def initial (tokens : List Token) (flaw : Option Flaw) : EventReader := ⟨tokens, flaw, [], [], [], []⟩

def isAtEnd (tokens : List Token) : Bool :=
  (tokens.dropWhile fun t => t.lexeme = .documentEnd).head?.any fun t => t.lexeme = .streamEnd

end EventReader

open EventReader in
def document (text : String) : Document :=
  let (tokens, flaw) := tokens text
  let start := EventReader.initial tokens flaw
  match start.readStart with
  | .error flaw => ⟨[], some flaw, false⟩
  | .ok r =>
    match run (8 * tokens.length + 8) r with
    | (r, some flaw) => ⟨r.events.reverse, some flaw, false⟩
    | (r, none) =>
      match r.peek with
      | .error flaw => ⟨r.events.reverse, some flaw, false⟩
      | .ok _ => ⟨r.events.reverse, none, !isAtEnd r.tokens⟩

end Scaffold.Yaml
