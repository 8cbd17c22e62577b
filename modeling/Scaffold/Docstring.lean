import Scaffold.Text.Character
import Scaffold.Text.Split

namespace Scaffold.Docstring

def expandTabsFrom (column : Nat) : List Char → List Char
  | [] => []
  | c :: cs =>
    if c = '\t' then
      let width := 8 - column % 8
      List.replicate width ' ' ++ expandTabsFrom (column + width) cs
    else c :: expandTabsFrom (column + 1) cs

def expandTabs (line : List Char) : List Char := expandTabsFrom 0 line

def indentation (line : List Char) : Nat := (line.takeWhile Text.isBlank).length

def isBlankLine (line : List Char) : Bool := line.all Text.isBlank

/-- The least indentation among lines that are not blank. -/
def margin? (lines : List (List Char)) : Option Nat :=
  ((lines.filter fun l => !isBlankLine l).map indentation).min?

def dropMargin (margin : Nat) (line : List Char) : List Char := line.drop (min margin (indentation line))

def trimLines (lines : List (List Char)) : List (List Char) :=
  (lines.reverse.dropWhile isBlankLine).reverse.dropWhile isBlankLine

/-- The first line loses all its indentation, the others what they have in common. -/
def unindent : List (List Char) → List (List Char)
  | [] => []
  | first :: rest =>
    first.dropWhile Text.isBlank ::
      match margin? rest with
      | some m => rest.map (dropMargin m)
      | none => rest

def cleanLines (text : List Char) : List (List Char) :=
  trimLines (unindent ((Text.splitChars '\n' text).map expandTabs))

def clean (text : String) : String :=
  Text.joinWith "\n" ((cleanLines text.toList).map String.ofList)

end Scaffold.Docstring
