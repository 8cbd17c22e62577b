import Scaffold.Parse.Session
import Scaffold.Python.Grammar

namespace Scaffold.Python

open Scaffold.Grammar

structure Delimiter where
  quote : Char
  triple : Bool
  raw : Bool
  format : Bool
  bytes : Bool
  deriving DecidableEq, Repr

/-- The open indentations and strings, innermost first. -/
structure Layout where
  indents : List Nat
  delimiters : List Delimiter
  insideFormat : Bool
  deriving DecidableEq, Repr

namespace Layout

def initial : Layout := ⟨[0], [], false⟩

def indent (l : Layout) : Nat := l.indents.headD 0

/-- Indentations are kept in sixteen bits. -/
def opened (l : Layout) (width : Nat) : Layout := { l with indents := width % 65536 :: l.indents }

def closed (l : Layout) : Layout := { l with indents := l.indents.drop 1 }

def stringOpened (l : Layout) (d : Delimiter) : Layout :=
  { l with delimiters := d :: l.delimiters, insideFormat := d.format }

def stringClosed (l : Layout) : Layout :=
  { l with delimiters := l.delimiters.drop 1, insideFormat := false }

structure Expected where
  newline : Bool
  indent : Bool
  dedent : Bool
  stringStart : Bool
  stringText : Bool
  escapedBrace : Bool
  closer : Bool
  except : Bool

/-- With no string and no suite in sight at once, both are expected only when anything is. -/
def Expected.anything (e : Expected) : Bool := e.stringText && e.indent

structure Found where
  kind : Kind
  first : Nat
  stop : Nat
  layout : Layout

private inductive StringScan where
  | found (kind : Kind) (stop : Nat)
  | nothing
  | ended (place : Nat)

private def isQuoteAt (src : Source) (d : Delimiter) (i : Nat) : Bool := src.char? i == some d.quote

/-- A backslash in a raw string covers a quote, a backslash or a line end after it. -/
private def afterRawBackslash (src : Source) (d : Delimiter) (i : Nat) : Nat :=
  let i := i + 1
  let i := if isQuoteAt src d i || src.char? i == some '\\' then i + 1 else i
  if src.char? i == some '\r' then if src.char? (i + 1) == some '\n' then i + 2 else i + 1
  else if src.char? i == some '\n' then i + 1
  else i

/-- Read the text of a string from a place; `hasText` tells that there has been text before it. Quotes of
a string with triple quotes count as text unless three of them stand together. -/
private def scanString (src : Source) (d : Delimiter) : Nat → Bool → Nat → StringScan
  | 0, _, i => .ended i
  | fuel + 1, hasText, i =>
    match src.char? i with
    | none => .ended i
    | some c =>
      if c == Char.ofNat 0 then .ended i
      else if d.format && (c == '{' || c == '}') then
        if hasText then .found .stringText i else .nothing
      else if c == '\\' then
        if d.raw then scanString src d fuel hasText (afterRawBackslash src d i)
        else if d.bytes && (src.char? (i + 1)).any (fun c => c == 'N' || c == 'u' || c == 'U') then
          scanString src d fuel true (min (i + 3) src.size)
        else if hasText then .found .stringText i
        else .nothing
      else if c == d.quote then
        if d.triple then
          if !isQuoteAt src d (i + 1) then .found .stringText (i + 1)
          else if !isQuoteAt src d (i + 2) then .found .stringText (i + 2)
          else if hasText then .found .stringText i
          else .found .stringEnd (i + 3)
        else if hasText then .found .stringText i
        else .found .stringEnd (i + 1)
      else if c == '\n' && hasText && !d.triple then .nothing
      else scanString src d fuel true (i + 1)

private structure Gap where
  place : Nat
  lineEnded : Bool
  width : Nat
  commentWidth : Option Nat

/-- Pass over blank space, lines with nothing but a comment, and joined lines. `none` if a comment or
a backslash stands there that is for the other tokens to deal with. -/
private def scanGap (src : Source) (comments : Bool) : Nat → Gap → Option Gap
  | 0, gap => some gap
  | fuel + 1, gap =>
    match src.char? gap.place with
    | none => some { gap with lineEnded := true, width := 0 }
    | some '\n' => scanGap src comments fuel { gap with place := gap.place + 1, lineEnded := true, width := 0 }
    | some ' ' => scanGap src comments fuel { gap with place := gap.place + 1, width := gap.width + 1 }
    | some '\t' => scanGap src comments fuel { gap with place := gap.place + 1, width := gap.width + 8 }
    | some c =>
      if c == '\r' || c == Char.ofNat 12 then
        scanGap src comments fuel { gap with place := gap.place + 1, width := 0 }
      else if c == '#' && comments then
        if !gap.lineEnded then none
        else
          let stop := src.skipWhile (fun c => c != '\n' && c != Char.ofNat 0) gap.place
          scanGap src comments fuel
            { gap with place := min (stop + 1) src.size, width := 0
                       commentWidth := gap.commentWidth.orElse fun _ => some gap.width }
      else if c == '\\' then
        let i := if src.char? (gap.place + 1) == some '\r' then gap.place + 2 else gap.place + 1
        if src.char? i == some '\n' then scanGap src comments fuel { gap with place := i + 1 }
        else if src.size ≤ i then scanGap src comments fuel { gap with place := i }
        else none
      else some gap

private def isFlag (c : Char) : Bool := "fFrRbBuU".contains c

/-- The opening of a string: letters, and one quote or three. -/
private def scanOpening (src : Source) (i : Nat) : Option (Delimiter × Nat) := do
  let q := src.skipWhile isFlag i
  let flags := (src.chars.extract i q).toList.map Char.toLower
  let c ← src.char? q
  guard (c == '"' || c == '\'' || c == '\x60')
  let triple := c != '\x60' && src.char? (q + 1) == some c && src.char? (q + 2) == some c
  some (⟨c, triple, flags.contains 'r', flags.contains 'f', flags.contains 'b'⟩,
    if triple then q + 3 else q + 1)

/-- The token between two lines, if there is one: a change of indentation or the end of a line. A
dedent also comes where none is expected, outside of brackets; it waits for comments that are indented
like the block. -/
private def lineToken? (src : Source) (e : Expected) (l : Layout) (gap : Gap) : Option (Kind × Layout) :=
  let quoted := (src.char? gap.place).any fun c => c == '"' || c == '\'' || c == '\x60'
  if e.indent && gap.width > l.indent then some (.indent, l.opened gap.width)
  else if (e.dedent || (!e.newline && !(e.stringStart && quoted) && !e.closer)) &&
      gap.width < l.indent && !l.insideFormat && (gap.commentWidth.all fun w => w < l.indent) then
    some (.dedent, l.closed)
  else if e.newline && !e.anything then some (.newline, l)
  else none

private def afterGap? (src : Source) (e : Expected) (l : Layout) (start place : Nat) : Option Found := do
  let comments := e.indent || e.dedent || e.newline || e.except
  let gap ← scanGap src comments (2 * src.size + 2) ⟨place, false, 0, none⟩
  let first := if gap.place == place then start else gap.place
  match if gap.lineEnded then lineToken? src e l gap else none with
  | some (kind, layout) => some ⟨kind, min first place, place, layout⟩
  | none =>
    guard (gap.commentWidth.isNone && e.stringStart)
    let (d, stop) ← scanOpening src gap.place
    some ⟨.stringStart, first, stop, l.stringOpened d⟩

def next? (src : Source) (e : Expected) (l : Layout) (start : Nat) : Option Found :=
  let current := if e.anything then none else l.delimiters.head?
  let brace := src.char? start == some '{' || src.char? start == some '}'
  match current with
  | some d =>
    if e.escapedBrace && brace && d.format then
      if src.char? (start + 1) == src.char? start then some ⟨.escapedBrace, start, start + 2, l⟩ else none
    else if e.stringText then
      match scanString src d (2 * src.size + 2) false start with
      | .found kind stop =>
        some ⟨kind, start, stop, if kind = .stringEnd then l.stringClosed else l⟩
      | .nothing => none
      | .ended place => afterGap? src e l start place
    else afterGap? src e l start start
  | none => afterGap? src e l start start

end Layout

end Scaffold.Python
