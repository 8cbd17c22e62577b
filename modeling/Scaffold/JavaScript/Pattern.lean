import Scaffold.Text.Character
import Scaffold.Text.Word

namespace Scaffold.JavaScript

structure Cursor where
  before : Option Char
  offset : Nat
  line : Nat
  rest : List Char

namespace Cursor

def start (text : List Char) : Cursor := ⟨none, 0, 1, text⟩

def step (k : Cursor) (c : Char) (rest : List Char) : Cursor :=
  ⟨some c, k.offset + c.utf8Size, if c = '\n' then k.line + 1 else k.line, rest⟩

def skip (n : Nat) (k : Cursor) : Cursor :=
  match n, k.rest with
  | n + 1, c :: cs => (k.step c cs).skip n
  | _, _ => k

end Cursor

def isNameStart (c : Char) : Bool := c.isAlpha || c == '_' || c == '$'

def isNamePart (c : Char) : Bool := c.isAlphanum || c == '_' || c == '$'

inductive Piece where
  | boundary
  | text (cs : List Char)
  | blanks
  | someBlanks
  | name
  | word
  /-- Parentheses and all between the first and the next closing one. -/
  | parameters
  deriving DecidableEq, Repr

abbrev Pattern := List Piece

def literal (s : String) : Piece := .text s.toList

namespace Piece

def run (p : Char → Bool) (cs : List Char) : Nat := (cs.takeWhile p).length

def length? (k : Cursor) : Piece → Option Nat
  | boundary =>
    if (k.before.any Text.isWordChar) != (k.rest.head?.any Text.isWordChar) then some 0 else none
  | text cs => if cs.isPrefixOf k.rest then some cs.length else none
  | blanks => some (run Text.isBlank k.rest)
  | someBlanks => if run Text.isBlank k.rest = 0 then none else some (run Text.isBlank k.rest)
  | name =>
    match k.rest with
    | c :: cs => if isNameStart c then some (run isNamePart cs + 1) else none
    | [] => none
  | word => if run Text.isWordChar k.rest = 0 then none else some (run Text.isWordChar k.rest)
  | parameters =>
    match k.rest with
    | '(' :: cs => if run (· ≠ ')') cs < cs.length then some (run (· ≠ ')') cs + 2) else none
    | _ => none

end Piece

structure Match where
  name : String
  start : Cursor
  stop : Cursor

/-- The place after a pattern that begins at `k`, and the name in it. -/
def Pattern.matchAt? (found : String) (k : Cursor) : Pattern → Option (String × Cursor)
  | [] => some (found, k)
  | piece :: pieces =>
    match piece.length? k with
    | some n =>
      let found := if piece = .name then String.ofList (k.rest.take n) else found
      matchAt? found (k.skip n) pieces
    | none => none

/-- All places where a pattern is found, from left to right; the next one is looked for after the
end of the one before. -/
def Pattern.matchesFrom (p : Pattern) : Nat → Cursor → List Match
  | 0, _ => []
  | fuel + 1, k =>
    match p.matchAt? "" k with
    | some (name, stop) =>
      if stop.rest.length < k.rest.length then ⟨name, k, stop⟩ :: p.matchesFrom fuel stop
      else []
    | none =>
      match k.rest with
      | c :: cs => p.matchesFrom fuel (k.step c cs)
      | [] => []

def Pattern.matches (p : Pattern) (text : List Char) : List Match :=
  p.matchesFrom (text.length + 1) (.start text)

end Scaffold.JavaScript
