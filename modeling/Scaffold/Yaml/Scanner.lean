import Scaffold.Yaml.Block
import Scaffold.Yaml.Plain
import Scaffold.Yaml.Tag

namespace Scaffold.Yaml

/-- Something that may turn out to be a key: how many tokens come before it, and where it begins. At the
indentation of a block it has to be one. -/
structure KeyCandidate where
  before : Nat
  mark : Mark
  required : Bool
  deriving DecidableEq, Repr

def keyLimit : Nat := 1024

structure Scanner where
  cursor : Cursor
  tokens : List Token
  blocks : List Nat
  candidate : Option KeyCandidate
  outer : List (Option KeyCandidate)
  keyAllowed : Bool

namespace Scanner

def initial (c : Cursor) : Scanner := ⟨c, [], [], none, [], true⟩

def mark (s : Scanner) : Mark := s.cursor.mark

def rest (s : Scanner) : List Char := s.cursor.rest

def inFlow (s : Scanner) : Bool := !s.outer.isEmpty

def innerColumn (s : Scanner) : Nat := s.blocks.head?.elim 0 (· + 1)

def emit (lexeme : Lexeme) (start stop : Mark) (s : Scanner) : Scanner :=
  { s with tokens := ⟨lexeme, start, stop⟩ :: s.tokens }

def emitSign (lexeme : Lexeme) (size : Nat) (s : Scanner) : Scanner :=
  let next := s.cursor.advance size
  { s.emit lexeme s.mark next.mark with cursor := next }

def insertAfter (n : Nat) (t : Token) (s : Scanner) : Scanner :=
  let latest := s.tokens.length - n
  { s with tokens := s.tokens.take latest ++ t :: s.tokens.drop latest }

/-- Close the blocks that are indented by more than a column, or all blocks. -/
def closeBlocks (column : Option Nat) (s : Scanner) : Scanner :=
  if s.inFlow then s
  else
    let closed := s.blocks.takeWhile fun b => column.all (· < b)
    { s with
      tokens := closed.map (fun _ => ⟨.blockEnd, s.mark, s.mark⟩) ++ s.tokens
      blocks := s.blocks.drop closed.length }

def opensBlock (column : Nat) (s : Scanner) : Bool := !s.inFlow && s.innerColumn ≤ column

def openBlock (lexeme : Lexeme) (s : Scanner) : Scanner :=
  if s.opensBlock s.mark.column then
    { s.emit lexeme s.mark s.mark with blocks := s.mark.column :: s.blocks }
  else s

def dropCandidate (s : Scanner) : Read Scanner :=
  match s.candidate with
  | none => .ok s
  | some k =>
    if k.required then flawIn .simpleKey k.mark .colonMissing s.mark else .ok { s with candidate := none }

def saveCandidate (s : Scanner) : Read Scanner :=
  if s.keyAllowed then do
    let required := !s.inFlow && s.blocks.head? = some s.mark.column
    let s ← s.dropCandidate
    return { s with candidate := some ⟨s.tokens.length, s.mark, required⟩ }
  else .ok s

def isStale (place : Mark) (k : KeyCandidate) : Bool :=
  k.mark.line < place.line || k.mark.index + keyLimit < place.index

def refresh (place : Mark) : Option KeyCandidate → Read (Option KeyCandidate)
  | none => .ok none
  | some k =>
    if !isStale place k then .ok (some k)
    else if k.required then flawIn .simpleKey k.mark .colonMissing place
    else .ok none

def refreshKeys (s : Scanner) : Read Scanner := do
  let outer ← s.outer.reverse.mapM (refresh s.mark)
  let candidate ← refresh s.mark s.candidate
  return { s with candidate, outer := outer.reverse }

/-- Step over blanks, comments and line breaks. A tab does not count as a blank where a key may begin in a
block. -/
def skipGapFrom : Nat → Scanner → Scanner
  | 0, s => s
  | fuel + 1, s =>
    let c := if s.mark.index = 0 && beginsWith '\ufeff' s.rest then s.cursor.skip else s.cursor
    let tabs := s.inFlow || !s.keyAllowed
    let c := (c.skipWhile fun x => x = ' ' || (tabs && x = '\t')).skipComment
    match c.rest with
    | [] => { s with cursor := c }
    | x :: _ =>
      if isBreak x then
        skipGapFrom fuel { s with cursor := c.skipBreak, keyAllowed := s.keyAllowed || !s.inFlow }
      else { s with cursor := c }

def skipGap (s : Scanner) : Scanner := skipGapFrom (s.rest.length + 1) s

/-- End the tokens. A line that is not ended counts as ended. -/
def fetchEnd (s : Scanner) : Read Scanner := do
  let m := s.mark
  let s := if m.column = 0 then s else
    { s with cursor := ⟨s.rest, { m with line := m.line + 1, column := 0 }⟩ }
  let s ← (s.closeBlocks none).dropCandidate
  return { s with keyAllowed := false }.emit .streamEnd s.mark s.mark

def fetchDirective (s : Scanner) : Read Scanner := do
  let s ← (s.closeBlocks none).dropCandidate
  let (lexeme, stop, next) ← readDirective s.cursor
  return { s.emit lexeme s.mark stop with cursor := next, keyAllowed := false }

def fetchMarker (lexeme : Lexeme) (s : Scanner) : Read Scanner := do
  let s ← (s.closeBlocks none).dropCandidate
  return { s with keyAllowed := false }.emitSign lexeme 3

def fetchFlowStart (lexeme : Lexeme) (s : Scanner) : Read Scanner := do
  let s ← s.saveCandidate
  return { s with candidate := none, outer := s.candidate :: s.outer, keyAllowed := true }.emitSign lexeme 1

def fetchFlowEnd (lexeme : Lexeme) (s : Scanner) : Read Scanner := do
  let s ← s.dropCandidate
  let s := match s.outer with
    | [] => s
    | candidate :: outer => { s with candidate, outer }
  return { s with keyAllowed := false }.emitSign lexeme 1

def fetchFlowEntry (s : Scanner) : Read Scanner := do
  let s ← s.dropCandidate
  return { s with keyAllowed := true }.emitSign .flowEntry 1

def fetchBlockEntry (s : Scanner) : Read Scanner := do
  if !s.inFlow && !s.keyAllowed then flawAt .entryNotAllowed s.mark
  else
    let s ← (s.openBlock .blockSequenceStart).dropCandidate
    return { s with keyAllowed := true }.emitSign .blockEntry 1

def fetchKey (s : Scanner) : Read Scanner := do
  if !s.inFlow && !s.keyAllowed then flawAt .keyNotAllowed s.mark
  else
    let s ← (s.openBlock .blockMappingStart).dropCandidate
    return { s with keyAllowed := !s.inFlow }.emitSign .key 1

/-- Put in the token for a key, and open a mapping for it if it is indented. -/
def insertKey (k : KeyCandidate) (s : Scanner) : Scanner :=
  let s := s.insertAfter k.before ⟨.key, k.mark, k.mark⟩
  if s.opensBlock k.mark.column then
    { s.insertAfter k.before ⟨.blockMappingStart, k.mark, k.mark⟩ with
      blocks := k.mark.column :: s.blocks }
  else s

def fetchValue (s : Scanner) : Read Scanner :=
  match s.candidate with
  | some k => .ok ({ s.insertKey k with candidate := none, keyAllowed := false }.emitSign .value 1)
  | none =>
    if !s.inFlow && !s.keyAllowed then flawAt .valueNotAllowed s.mark
    else .ok ({ s.openBlock .blockMappingStart with keyAllowed := !s.inFlow }.emitSign .value 1)

def fetchWith (read : Cursor → Read (Lexeme × Cursor)) (s : Scanner) : Read Scanner := do
  let s ← s.saveCandidate
  let (lexeme, next) ← read s.cursor
  return { s.emit lexeme s.mark next.mark with cursor := next, keyAllowed := false }

def fetchBlockScalar (folded : Bool) (s : Scanner) : Read Scanner := do
  let s ← s.dropCandidate
  let (lexeme, next) ← readBlock folded s.blocks.head? s.cursor
  return { s.emit lexeme s.mark next.mark with cursor := next, keyAllowed := true }

def fetchPlain (s : Scanner) : Read Scanner := do
  let s ← s.saveCandidate
  let p ← readPlain s.inFlow s.innerColumn s.cursor
  return { s.emit (.scalar (String.ofList p.text.reverse) .plain) s.mark p.stop with
    cursor := p.next, keyAllowed := p.broken }

def readAnchor (c : Cursor) : Read (Lexeme × Cursor) :=
  (readName .anchor c).map fun (name, next) => (.anchor name, next)

def readAlias (c : Cursor) : Read (Lexeme × Cursor) :=
  (readName .reference c).map fun (name, next) => (.reference name, next)

def isIndicator (c : Char) : Bool :=
  "-?:,[]#&*!|>'\"%@".contains c || c = '{' || c = '}' || c.toNat = 96

def beginsPlain (inFlow : Bool) (x : Char) (text : List Char) : Bool :=
  !(isBlank x || isBreak x || isIndicator x) || (x = '-' && !text.head?.any isBlank) ||
    (!inFlow && (x = '?' || x = ':') && !endsWord text)

def fetchAt (x : Char) (text : List Char) (s : Scanner) : Read Scanner :=
  if s.mark.column = 0 && x = '%' then s.fetchDirective
  else if s.mark.column = 0 && marker '-' (x :: text) then s.fetchMarker .documentStart
  else if s.mark.column = 0 && marker '.' (x :: text) then s.fetchMarker .documentEnd
  else if x = '[' then s.fetchFlowStart .flowSequenceStart
  else if x = '{' then s.fetchFlowStart .flowMappingStart
  else if x = ']' then s.fetchFlowEnd .flowSequenceEnd
  else if x = '}' then s.fetchFlowEnd .flowMappingEnd
  else if x = ',' then s.fetchFlowEntry
  else if x = '-' && endsWord text then s.fetchBlockEntry
  else if x = '?' && (s.inFlow || endsWord text) then s.fetchKey
  else if x = ':' && (s.inFlow || endsWord text) then s.fetchValue
  else if x = '*' then s.fetchWith readAlias
  else if x = '&' then s.fetchWith readAnchor
  else if x = '!' then s.fetchWith (readTag s.inFlow)
  else if x = '|' && !s.inFlow then s.fetchBlockScalar false
  else if x = '>' && !s.inFlow then s.fetchBlockScalar true
  else if x = '\'' then s.fetchWith (readQuoted false)
  else if x = '"' then s.fetchWith (readQuoted true)
  else if beginsPlain s.inFlow x text then s.fetchPlain
  else flawIn .nextToken s.mark .noToken s.mark

def fetch (s : Scanner) : Read Scanner := do
  let s ← s.skipGap.refreshKeys
  let s := s.closeBlocks (some s.mark.column)
  match s.rest with
  | [] => s.fetchEnd
  | x :: text => (s.fetchAt x text).bind refreshKeys

def isDone (s : Scanner) : Bool := s.tokens.head?.any fun t => t.lexeme = .streamEnd

def run : Nat → Scanner → List Token × Option Flaw
  | 0, s => (s.tokens.reverse, none)
  | fuel + 1, s =>
    if s.isDone then (s.tokens.reverse, none)
    else
      match s.fetch with
      | .ok s => run fuel s
      | .error flaw => (s.tokens.reverse, some flaw)

end Scanner

def isAllowed (c : Char) : Bool :=
  c = '\t' || c = '\n' || c = '\r' || (' ' ≤ c && c ≤ '~') || c = '\u0085' ||
    ('\u00a0' ≤ c && c ≠ '\ufffe' && c ≠ '\uffff')

def controlOffset? (offset : Nat) : List Char → Option Nat
  | [] => none
  | c :: cs => if isAllowed c then controlOffset? (offset + c.utf8Size) cs else some offset

def tokens (text : String) : List Token × Option Flaw :=
  let chars := text.toList
  match controlOffset? 0 chars with
  | some offset => ([], some (.control offset))
  | none =>
    let chars := if beginsWith '\ufeff' chars then chars.drop 1 else chars
    Scanner.run (chars.length + 2) (.initial ⟨chars, .start⟩)

end Scaffold.Yaml
