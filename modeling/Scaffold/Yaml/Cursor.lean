import Scaffold.Yaml.Flaw

namespace Scaffold.Yaml

def isBreak (c : Char) : Bool :=
  c = '\n' || c = '\r' || c = '\u0085' || c = '\u2028' || c = '\u2029'

def isBlank (c : Char) : Bool := c = ' ' || c = '\t'

def isNameChar (c : Char) : Bool := c.isAlphanum || c = '_' || c = '-'

def endsLine (text : List Char) : Bool := text.head?.all isBreak

def endsWord (text : List Char) : Bool := text.head?.all fun c => isBlank c || isBreak c

def beginsWith (c : Char) (text : List Char) : Bool := text.head? = some c

def marker (symbol : Char) : List Char → Bool
  | a :: b :: c :: rest => a = symbol && b = symbol && c = symbol && endsWord rest
  | _ => false

structure Cursor where
  rest : List Char
  mark : Mark

namespace Cursor

def advance (n : Nat) (c : Cursor) : Cursor :=
  ⟨c.rest.drop n, { c.mark with index := c.mark.index + n, column := c.mark.column + n }⟩

def skip (c : Cursor) : Cursor := c.advance 1

def skipWhile (p : Char → Bool) (c : Cursor) : Cursor := c.advance (c.rest.takeWhile p).length

def skipBreak (c : Cursor) : Cursor :=
  let size := if ['\r', '\n'].isPrefixOf c.rest then 2 else 1
  ⟨c.rest.drop size, ⟨c.mark.index + size, c.mark.line + 1, 0⟩⟩

def breakText (c : Cursor) : List Char :=
  match c.rest with
  | '\u2028' :: _ => ['\u2028']
  | '\u2029' :: _ => ['\u2029']
  | _ => ['\n']

def atMarker (c : Cursor) : Bool :=
  c.mark.column = 0 && (marker '-' c.rest || marker '.' c.rest)

def skipComment (c : Cursor) : Cursor :=
  if beginsWith '#' c.rest then c.skipWhile fun x => !isBreak x else c

def finishLine (activity : Activity) (since : Mark) (c : Cursor) : Read Cursor :=
  let here := (c.skipWhile isBlank).skipComment
  if !endsLine here.rest then flawIn activity since .lineEndMissing here.mark
  else if here.rest.isEmpty then .ok here
  else .ok here.skipBreak

end Cursor

structure Gap where
  blanks : List Char
  breaks : List (List Char)

namespace Gap

def none : Gap := ⟨[], []⟩

def isBroken (g : Gap) : Bool := !g.breaks.isEmpty

/-- A gap on one line stays. A single line break is a space, and of several the first is dropped, but
only if it is an ordinary one. -/
def text (g : Gap) : List Char :=
  match g.breaks with
  | [] => g.blanks
  | ['\n'] :: [] => [' ']
  | ['\n'] :: more => more.flatten
  | all => all.flatten

def scanFrom : Nat → Gap → Cursor → Gap × Cursor
  | 0, g, c => (g, c)
  | fuel + 1, g, c =>
    match c.rest with
    | [] => (g, c)
    | x :: _ =>
      if isBlank x then
        scanFrom fuel (if g.isBroken then g else ⟨x :: g.blanks, []⟩) c.skip
      else if isBreak x then scanFrom fuel ⟨g.blanks, c.breakText :: g.breaks⟩ c.skipBreak
      else (g, c)

def scan (c : Cursor) : Gap × Cursor :=
  let (g, stop) := scanFrom c.rest.length none c
  (⟨g.blanks.reverse, g.breaks.reverse⟩, stop)

end Gap

end Scaffold.Yaml
