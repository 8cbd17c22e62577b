import Scaffold.JavaScript.Pattern
import Scaffold.Log
import Scaffold.Outline

namespace Scaffold.JavaScript

/-- The offset of the brace that brings the depth back to zero, in a text that begins at an offset. A
closing brace too many takes the depth below zero. -/
def closingFrom (depth : Int) (offset : Nat) : List Char → Option Nat
  | [] => none
  | c :: cs =>
    if c = '{' then closingFrom (depth + 1) (offset + c.utf8Size) cs
    else if c = '}' then
      if depth = 1 then some offset else closingFrom (depth - 1) (offset + c.utf8Size) cs
    else closingFrom depth (offset + c.utf8Size) cs

/-- The part of a text from a byte offset on, with its own offset; a character that is cut is left
out. -/
def fromOffset (start offset : Nat) : List Char → Nat × List Char
  | [] => (offset, [])
  | c :: cs => if start ≤ offset then (offset, c :: cs) else fromOffset start (offset + c.utf8Size) cs

def blockEnd? (text : String) (start : Nat) : Option Nat :=
  let (offset, cs) := fromOffset start 0 text.toList
  closingFrom 0 offset cs

def classPattern : Pattern := [.boundary, literal "class", .someBlanks, .name]

def methodPattern : Pattern := [.boundary, .name, .blanks, .parameters, .blanks, literal "\x7b"]

def signatureOf (m : Match) : Signature := .bare m.name m.start.line

/-- The text between the end of a class heading and the brace that closes the class. -/
def bodyOf? (m : Match) : Option (List Char) :=
  (closingFrom 0 0 m.stop.rest).map fun size =>
    m.stop.rest.take (m.stop.rest.length - (fromOffset size 0 m.stop.rest).2.length)

def unclosed (m : Match) : Log.Event :=
  ⟨.warn, "class body is not closed; no methods recorded",
    [("class", .quoted m.name), ("line", .number m.start.line)]⟩

def methodsIn (line : Nat) (body : List Char) : List Signature :=
  ((methodPattern.matchesFrom (body.length + 1) { Cursor.start body with line }).filter
    fun m => m.name ≠ "constructor").map signatureOf

def classOf (m : Match) : Logged ClassOutline :=
  match bodyOf? m with
  | some body => ⟨⟨m.name, m.start.line, none, methodsIn m.stop.line body⟩, []⟩
  | none => ⟨⟨m.name, m.start.line, none, []⟩, [unclosed m]⟩

end Scaffold.JavaScript
