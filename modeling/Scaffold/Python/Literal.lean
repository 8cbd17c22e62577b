import Scaffold.Text.Split

namespace Scaffold.Python.Literal

def octal? (c : Char) : Option Nat := if '0' ≤ c ∧ c ≤ '7' then some (c.toNat - 48) else none

def hex? (c : Char) : Option Nat :=
  if '0' ≤ c ∧ c ≤ '9' then some (c.toNat - 48)
  else if 'a' ≤ c ∧ c ≤ 'f' then some (c.toNat - 87)
  else if 'A' ≤ c ∧ c ≤ 'F' then some (c.toNat - 55)
  else none

/-- The number that hexadecimal digits spell, which may have a plus sign before them. -/
def hexNumber? (cs : List Char) : Option Nat :=
  let digits := match cs with
    | '+' :: rest => rest
    | _ => cs
  if digits.isEmpty then none
  else digits.foldl (fun n c => do some ((← n) * 16 + (← hex? c))) (some 0)

def char? (n : Nat) : Option Char :=
  if n < 0xD800 ∨ (0xDFFF < n ∧ n < 0x110000) then some (Char.ofNat n) else none

def octalDigits : Nat → List Char → List Nat
  | count + 1, c :: cs =>
    match octal? c with
    | some d => d :: octalDigits count cs
    | none => []
  | _, _ => []

def simpleEscape? : Char → Option Char
  | 'n' => some '\n'
  | 't' => some '\t'
  | 'r' => some '\r'
  | 'a' => some (Char.ofNat 7)
  | 'b' => some (Char.ofNat 8)
  | 'f' => some (Char.ofNat 12)
  | 'v' => some (Char.ofNat 11)
  | '\\' => some '\\'
  | '\'' => some '\''
  | '"' => some '"'
  | _ => none

def width? : Char → Option Nat
  | 'x' => some 2
  | 'u' => some 4
  | 'U' => some 8
  | _ => none

/-- What the text after a backslash stands for, and how much of it belongs to the escape. Escapes that
are unknown or do not name a character stay as they are written. -/
def escape : List Char → List Char × Nat
  | [] => (['\\'], 0)
  | c :: cs =>
    match simpleEscape? c with
    | some d => ([d], 1)
    | none =>
      if c = '\n' then ([], 1)
      else match octal? c with
        | some d =>
          let ds := d :: octalDigits 2 cs
          ((char? (ds.foldl (fun n d => n * 8 + d) 0)).toList, ds.length)
        | none =>
          let kept := (['\\', c], 1)
          match width? c with
          | some width =>
            let digits := cs.take width
            if (String.ofList digits).utf8ByteSize = width then
              match (hexNumber? digits).bind char? with
              | some d => ([d], width + 1)
              | none => kept
            else kept
          | none => kept

def unescape : List Char → List Char
  | [] => []
  | c :: cs =>
    if c = '\\' then
      let (decoded, used) := escape cs
      decoded ++ unescape (cs.drop used)
    else c :: unescape cs
termination_by cs => cs.length
decreasing_by
  · simp only [List.length_drop, List.length_cons]; omega
  · simp

def isQuote (c : Char) : Bool := c == '"' || c == '\''

def quotes : List (List Char) := [['"', '"', '"'], ['\'', '\'', '\''], ['"'], ['\'']]

def between? (quote text : List Char) : Option (List Char) :=
  if 2 * quote.length ≤ text.length ∧ quote.isPrefixOf text ∧ quote.reverse.isPrefixOf text.reverse then
    some ((text.drop quote.length).take (text.length - 2 * quote.length))
  else none

def content? (literal : String) : Option String := do
  let cs := literal.toList
  let flags := (cs.takeWhile fun c => !isQuote c).map Char.toLower
  let quoted := cs.dropWhile fun c => !isQuote c
  guard (!quoted.isEmpty && !flags.contains 'b' && !flags.contains 'f')
  let body ← quotes.findSome? fun q => between? q quoted
  some (String.ofList (if flags.contains 'r' then body else unescape body))

end Scaffold.Python.Literal
