import Scaffold.Text.Identifier
import Scaffold.Parse.Session
import Scaffold.Python.Grammar

namespace Scaffold.Python.Lexis

open Scaffold.Grammar Scaffold.Text

def isSpace (c : Char) : Bool :=
  let n := c.toNat
  (9 ≤ n && n ≤ 13) || n == 0x20 || n == 0xFEFF || n == 0x2060 || n == 0x200B

section Numbers

variable (src : Source)

private def isHex (c : Char) : Bool :=
  c.isDigit || ('a' ≤ c && c ≤ 'f') || ('A' ≤ c && c ≤ 'F')

private def charIs (p : Char → Bool) (i : Nat) : Bool := (src.char? i).any p

private def skipIf (p : Char → Bool) (i : Nat) : Nat := if charIs src p i then i + 1 else i

private def digits : Nat → Nat → Nat
  | 0, i => i
  | fuel + 1, i =>
    let j := src.skipWhile Char.isDigit i
    if j == i then i
    else if charIs src (· == '_') j then digits fuel (j + 1)
    else j

private def basedDigits (digit : Char → Bool) : Nat → Nat → Nat
  | 0, i => i
  | fuel + 1, i =>
    let j := skipIf src (· == '_') i
    let k := src.skipWhile digit j
    if k == j then i else basedDigits digit fuel k

private def anyDigits (i : Nat) : Nat := digits src (src.size + 1) i

def integerEnd (i : Nat) : Nat :=
  let based := fun (marks : List Char) (digit : Char → Bool) =>
    if charIs src (· == '0') i && charIs src marks.contains (i + 1) then
      let j := basedDigits src digit (src.size + 1) (i + 2)
      if j == i + 2 then none else some (skipIf src (fun c => c == 'l' || c == 'L') j)
    else none
  let decimal :=
    let j := anyDigits src i
    if j == i then i else skipIf src (fun c => c == 'l' || c == 'L' || c == 'j' || c == 'J') j
  ((based ['x', 'X'] isHex).orElse fun _ =>
    (based ['o', 'O'] (fun c => '0' ≤ c && c ≤ '7')).orElse fun _ =>
      based ['b', 'B'] (fun c => c == '0' || c == '1')).getD decimal

private def exponentEnd (i : Nat) : Nat :=
  if charIs src (fun c => c == 'e' || c == 'E') i then
    let j := skipIf src (fun c => c == '+' || c == '-') (i + 1)
    let k := anyDigits src j
    if k == j then i else k
  else i

def floatEnd (i : Nat) : Nat :=
  let whole := anyDigits src i
  let body :=
    if charIs src (· == '.') whole then
      let fraction := anyDigits src (whole + 1)
      if whole == i && fraction == whole + 1 then i else exponentEnd src fraction
    else if whole == i then i
    else
      let j := exponentEnd src whole
      if j == whole then i else j
  if body == i then i else skipIf src (fun c => c == 'j' || c == 'J') body

end Numbers

section Escapes

variable (src : Source)

private def fixedDigits (digit : Char → Bool) (width i : Nat) : Option Nat :=
  if (List.range width).all fun k => charIs src digit (i + k) then some (i + width) else none

def escapeEnd? (i : Nat) : Option Nat := do
  let c ← src.char? (i + 1)
  if c == 'u' then fixedDigits src isHex 4 (i + 2)
  else if c == 'U' then fixedDigits src isHex 8 (i + 2)
  else if c == 'x' then fixedDigits src isHex 2 (i + 2)
  else if c.isDigit then some (min (src.skipWhile Char.isDigit (i + 1)) (i + 4))
  else if c == '\n' then some (i + 2)
  else if c == '\r' then if charIs src (· == '\n') (i + 2) then some (i + 3) else none
  else if "'\"abfrntv\\".contains c then some (i + 2)
  else if c == 'N' then do
    guard (charIs src (· == '{') (i + 2))
    let j := src.skipWhile (· != '}') (i + 3)
    guard (i + 3 < j && j < src.size)
    some (j + 1)
  else none

def continuationEnd? (i : Nat) : Option Nat := do
  let c ← src.char? (i + 1)
  if c == '\n' || c == Char.ofNat 0 then some (i + 2)
  else if c == '\r' && charIs src (· == '\n') (i + 2) then some (i + 3)
  else none

end Escapes

private def isWordText (text : String) : Bool :=
  match text.toList with
  | c :: cs => isIdentifierStart c && cs.all isIdentifierPart
  | [] => false

/-- `except` and `finally` are found like operators, because `except*` is one token as well. -/
private def isKeywordText (text : String) : Bool :=
  isWordText text && text != "except" && text != "finally"

private def textOf? : Kind → Option String
  | .symbol text => some text
  | .trueLiteral => some "True"
  | .falseLiteral => some "False"
  | .noneLiteral => some "None"
  | .ellipsis => some "..."
  | _ => none

private def numbered : List (String × Nat) :=
  (List.range grammar.tokenCount).filterMap fun i => do
    let text ← textOf? (← grammar.tokens[i]?)
    some (text, i)

def keywords : Std.HashMap String Nat :=
  Std.HashMap.ofList (numbered.filter fun (text, _) => isKeywordText text)

def keywordSet : TokenSet :=
  (numbered.filter fun (text, _) => isKeywordText text).foldl (fun s (_, i) => s ||| TokenSet.single i) 0

private def operators : Std.HashMap Nat (List (List Char × Nat)) :=
  let all := (numbered.filter fun (text, _) => !isKeywordText text).map fun (text, i) => (text.toList, i)
  let sorted := all.mergeSort fun a b => b.1.length ≤ a.1.length
  sorted.foldr (fun (text, i) m =>
    match text with
    | c :: _ => m.insert c.toNat ((text, i) :: m.getD c.toNat [])
    | [] => m) ∅

private def identifier : Nat := grammar.number .identifier
private def integer : Nat := grammar.number .integer
private def float : Nat := grammar.number .float
private def comment : Nat := grammar.number .comment
private def lineContinuation : Nat := grammar.number .lineContinuation
private def escapeSequence : Nat := grammar.number .escapeSequence
private def loneBackslash : Nat := grammar.number .loneBackslash
private def formatText : Nat := grammar.number .formatText
private def typeConversion : Nat := grammar.number .typeConversion
private def wordSet : TokenSet := keywordSet ||| TokenSet.single identifier

section Tokens

variable (src : Source) (valid : TokenSet)

private def operator? (i : Nat) : Option (Nat × Nat) := do
  let c ← src.char? i
  let (text, n) ← (operators.getD c.toNat []).find? fun (text, n) => valid.mem n && src.startsWith i text
  some (n, i + text.length)

/-- Of two tokens that begin at one place the longer one; the first of two of one length. -/
private def longer (a b : Option (Nat × Nat)) : Option (Nat × Nat) :=
  match a, b with
  | some x, some y => if y.2 > x.2 then b else a
  | none, _ => b
  | _, none => a

private def nonEmpty (token i stop : Nat) : Option (Nat × Nat) :=
  if valid.mem token && stop > i then some (token, stop) else none

private def word? (i : Nat) : Option (Nat × Nat) :=
  if valid &&& wordSet != 0 && charIs src isIdentifierStart i then
    some (identifier, src.skipWhile isIdentifierPart i)
  else none

private def tokenAt? (i : Nat) : Option (Nat × Nat) := do
  let c ← src.char? i
  if c == '#' then some (comment, src.skipWhile (· != '\n') i)
  else if c == '\\' then (continuationEnd? src i).map fun stop => (lineContinuation, stop)
  else
    let conversion := nonEmpty valid typeConversion i
      (if c == '!' && charIs src (fun c => 'a' ≤ c && c ≤ 'z') (i + 1) then i + 2 else i)
    [operator? src valid i, word? src valid i, nonEmpty valid integer i (integerEnd src i),
      nonEmpty valid float i (floatEnd src i), conversion].foldl longer none

private def escape? (i : Nat) : Option (Nat × Nat) :=
  if charIs src (· == '\\') i && (valid.mem escapeSequence || valid.mem loneBackslash) then
    let sequence := if valid.mem escapeSequence then escapeEnd? src i else none
    match sequence, continuationEnd? src i with
    | some stop, _ => some (escapeSequence, stop)
    | none, some stop => some (lineContinuation, stop)
    | none, none => if valid.mem loneBackslash then some (loneBackslash, i + 1) else none
  else none

private def formatText? (i : Nat) : Option (Nat × Nat × Nat) :=
  if valid.mem formatText then
    let first := src.skipWhile (· == '\n') i
    let stop := src.skipWhile (fun c => c != '{' && c != '}' && c != '\n') first
    if stop > first then some (formatText, first, stop) else none
  else none

def token (i : Nat) : Parse.Lexed :=
  match escape? src valid i, formatText? src valid i with
  | some (n, stop), _ => .found n i stop
  | none, some (n, first, stop) => .found n first stop
  | none, none =>
    let first := src.skipWhile isSpace i
    if src.size ≤ first then
      if valid.mem 0 then .found 0 first first else .stuck first first
    else
      match tokenAt? src valid first with
      | some (n, stop) => .found n first stop
      | none => .stuck first (if charIs src (· == '!') first then first + 1 else first)

end Tokens

def keyword? (src : Source) (first stop : Nat) : Option Nat := keywords[src.slice first stop]?

end Scaffold.Python.Lexis
