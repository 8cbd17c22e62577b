import Scaffold.Yaml.Cursor
import Scaffold.Yaml.Token

namespace Scaffold.Yaml

def escapeOf? : Char → Option Char
  | '0' => some '\x00'
  | 'a' => some '\x07'
  | 'b' => some '\x08'
  | 't' | '\t' => some '\t'
  | 'n' => some '\n'
  | 'v' => some '\x0b'
  | 'f' => some '\x0c'
  | 'r' => some '\r'
  | 'e' => some '\x1b'
  | ' ' => some ' '
  | '"' => some '"'
  | '/' => some '/'
  | '\\' => some '\\'
  | 'N' => some '\u0085'
  | '_' => some '\u00a0'
  | 'L' => some '\u2028'
  | 'P' => some '\u2029'
  | _ => none

def escapeWidth? : Char → Option Nat
  | 'x' => some 2
  | 'u' => some 4
  | 'U' => some 8
  | _ => none

def hexValue? (c : Char) : Option Nat :=
  if c.isDigit then some (c.toNat - 48)
  else if 'a' ≤ c && c ≤ 'f' then some (c.toNat - 87)
  else if 'A' ≤ c && c ≤ 'F' then some (c.toNat - 55)
  else none

def hexNumber? (value : Nat) : List Char → Option Nat
  | [] => some value
  | c :: cs => (hexValue? c).bind fun d => hexNumber? (value * 16 + d) cs

def scalarValue? (n : Nat) : Option Char := if h : n.isValidChar then some (Char.ofNatAux n h) else none

def readEscape (since : Mark) (c : Cursor) : Read (Char × Cursor) :=
  match c.rest with
  | _ :: letter :: digits =>
    match escapeOf? letter, escapeWidth? letter with
    | some x, _ => .ok (x, c.advance 2)
    | none, some width =>
      match hexNumber? 0 (digits.take width), decide (width ≤ digits.length) with
      | some n, true =>
        match scalarValue? n with
        | some x => .ok (x, c.advance (2 + width))
        | none => flawIn .quotedText since .notScalarValue (c.advance 2).mark
      | _, _ => flawIn .quotedText since .hexMissing (c.advance 2).mark
    | none, none => flawIn .quotedText since .unknownEscape c.mark
  | _ => flawIn .quotedText since .unknownEscape c.mark

def readQuotedFrom (double : Bool) (since : Mark) : Nat → List Char → Cursor → Read (List Char × Cursor)
  | 0, _, c => flawIn .quotedScalar since .endOfText c.mark
  | fuel + 1, text, c =>
    if c.atMarker then flawIn .quotedScalar since .documentMarker c.mark
    else
      match c.rest with
      | [] => flawIn .quotedScalar since .endOfText c.mark
      | x :: rest =>
        if isBlank x || isBreak x then
          let (gap, next) := Gap.scan c
          readQuotedFrom double since fuel (gap.text.reverse ++ text) next
        else if double then
          if x = '"' then .ok (text, c.skip)
          else if x = '\\' then
            if rest.head?.any isBreak then
              let (gap, next) := Gap.scan c.skip.skipBreak
              readQuotedFrom double since fuel (gap.breaks.flatten.reverse ++ text) next
            else
              match readEscape since c with
              | .ok (y, next) => readQuotedFrom double since fuel (y :: text) next
              | .error flaw => .error flaw
          else readQuotedFrom double since fuel (x :: text) c.skip
        else if x = '\'' then
          if beginsWith '\'' rest then readQuotedFrom double since fuel ('\'' :: text) (c.advance 2)
          else .ok (text, c.skip)
        else readQuotedFrom double since fuel (x :: text) c.skip

def readQuoted (double : Bool) (c : Cursor) : Read (Lexeme × Cursor) := do
  let (text, next) ← readQuotedFrom double c.mark (c.rest.length + 1) [] c.skip
  return (.scalar (String.ofList text.reverse) (if double then .doubleQuoted else .singleQuoted), next)

end Scaffold.Yaml
