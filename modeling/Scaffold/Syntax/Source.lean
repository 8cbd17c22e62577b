namespace Scaffold

/-- A text by places: `chars[i]` stands at place `i`, `offsets[i]` bytes and `rows[i]` line feeds
after the beginning. Both tables have one more entry, for the end of the text. -/
structure Source where
  chars : Array Char
  offsets : Array Nat
  rows : Array Nat

namespace Source

def ofString (text : String) : Source :=
  let chars := text.toList.toArray
  let (offsets, rows, offset, row) := chars.foldl (fun (offsets, rows, offset, row) c =>
    (offsets.push offset, rows.push row, offset + c.utf8Size, if c == '\n' then row + 1 else row))
    ((#[], #[], 0, 0) : Array Nat × Array Nat × Nat × Nat)
  ⟨chars, offsets.push offset, rows.push row⟩

def size (s : Source) : Nat := s.chars.size

def char? (s : Source) (i : Nat) : Option Char := s.chars[i]?

def offset (s : Source) (i : Nat) : Nat := s.offsets.getD i (s.offsets.back?.getD 0)

def row (s : Source) (i : Nat) : Nat := s.rows.getD i (s.rows.back?.getD 0)

def bytesBetween (s : Source) (i j : Nat) : Nat := s.offset j - s.offset i

def rowsBetween (s : Source) (i j : Nat) : Nat := s.row j - s.row i

def slice (s : Source) (i j : Nat) : String := String.ofList (s.chars.extract i j).toList

def skipWhile (s : Source) (p : Char → Bool) (i : Nat) : Nat :=
  if h : i < s.chars.size then
    if p s.chars[i] then s.skipWhile p (i + 1) else i
  else i
termination_by s.chars.size - i

def startsWith (s : Source) (i : Nat) : List Char → Bool
  | [] => true
  | c :: cs => s.char? i == some c && s.startsWith (i + 1) cs

end Source

end Scaffold
