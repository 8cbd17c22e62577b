import Scaffold.Yaml.Cursor
import Scaffold.Yaml.Token

namespace Scaffold.Yaml

inductive Chomping where
  | strip
  | clip
  | keep
  deriving DecidableEq, Repr

def Chomping.ofChar? : Char → Option Chomping
  | '-' => some .strip
  | '+' => some .keep
  | _ => none

structure BlockHeader where
  chomping : Chomping
  increment : Option Nat

def indentationDigit? (c : Char) : Option Nat := if c.isDigit then some (c.toNat - 48) else none

def readChomping (c : Cursor) : Option Chomping × Cursor :=
  match c.rest.head?.bind Chomping.ofChar? with
  | some chomping => (some chomping, c.skip)
  | none => (none, c)

def readIncrement (since : Mark) (c : Cursor) : Read (Option Nat × Cursor) :=
  match c.rest.head?.bind indentationDigit? with
  | some 0 => flawIn .blockScalar since .zeroIndentation c.mark
  | some n => .ok (some n, c.skip)
  | none => .ok (none, c)

def readHeader (since : Mark) (c : Cursor) : Read (BlockHeader × Cursor) := do
  let (before, c) := readChomping c
  let (increment, c) ← readIncrement since c
  let (after, c) := if before.isNone && increment.isSome then readChomping c else (none, c)
  return (⟨(before.or after).getD .clip, increment⟩, c)

/-- The empty lines and the indentation at a place. Without an indentation that is known, the deepest
one is remembered. Line breaks are latest first. -/
def scanLinesFrom (indent : Option Nat) (since : Mark) :
    Nat → List (List Char) → Nat → Cursor → Read (List (List Char) × Nat × Cursor)
  | 0, breaks, deepest, c => .ok (breaks, deepest, c)
  | fuel + 1, breaks, deepest, c =>
    let room := match indent with
      | some n => n - c.mark.column
      | none => c.rest.length
    let here := c.advance ((c.rest.take room).takeWhile (· = ' ')).length
    let deepest := max deepest here.mark.column
    let inside := indent.all fun n => here.mark.column < n
    match here.rest with
    | [] => .ok (breaks, deepest, here)
    | x :: _ =>
      if inside && x = '\t' then flawIn .blockScalar since .tabInIndentation here.mark
      else if isBreak x then
        scanLinesFrom indent since fuel (here.breakText :: breaks) deepest here.skipBreak
      else .ok (breaks, deepest, here)

def scanLines (indent : Option Nat) (since : Mark) (c : Cursor) : Read (List (List Char) × Nat × Cursor) := do
  let (breaks, deepest, next) ← scanLinesFrom indent since (c.rest.length + 1) [] 0 c
  return (breaks.reverse, deepest, next)

structure BlockGap where
  leading : List Char
  empty : List (List Char)
  afterBlank : Bool

/-- What a gap stands for before a line that begins with a blank or not. Where lines are folded, a break
between lines that do not begin with blanks is a space, or is dropped before empty lines. -/
def BlockGap.text (folded blankNext : Bool) (g : BlockGap) : List Char :=
  if folded && g.leading = ['\n'] && !g.afterBlank && !blankNext then
    (if g.empty.isEmpty then [' '] else []) ++ g.empty.flatten
  else g.leading ++ g.empty.flatten

def readLinesFrom (folded : Bool) (indent : Nat) (since : Mark) :
    Nat → List Char → BlockGap → Cursor → Read (List Char × BlockGap × Cursor)
  | 0, text, gap, c => .ok (text, gap, c)
  | fuel + 1, text, gap, c =>
    if c.mark.column = indent && !c.rest.isEmpty then do
      let blankNext := c.rest.head?.any isBlank
      let line := c.rest.takeWhile fun x => !isBreak x
      let after := c.advance line.length
      let text := line.reverse ++ ((gap.text folded blankNext).reverse ++ text)
      let (leading, start) := if after.rest.isEmpty then ([], after) else (after.breakText, after.skipBreak)
      let (empty, _, next) ← scanLines (some indent) since start
      readLinesFrom folded indent since fuel text ⟨leading, empty, blankNext⟩ next
    else .ok (text, gap, c)

def Chomping.tail (gap : BlockGap) : Chomping → List Char
  | strip => []
  | clip => gap.leading
  | keep => gap.leading ++ gap.empty.flatten

def readBlock (folded : Bool) (outer : Option Nat) (c : Cursor) : Read (Lexeme × Cursor) := do
  let since := c.mark
  let (header, c) ← readHeader since c.skip
  let c ← c.finishLine .blockScalar since
  let given := header.increment.map fun n => outer.getD 0 + n
  let (empty, deepest, c) ← scanLines given since c
  let indent := given.getD (max deepest (max 1 (outer.elim 0 (· + 1))))
  let (text, gap, c) ← readLinesFrom folded indent since (c.rest.length + 1) [] ⟨[], empty, false⟩ c
  return (.scalar (String.ofList (text.reverse ++ header.chomping.tail gap))
    (if folded then .folded else .literal), c)

end Scaffold.Yaml
