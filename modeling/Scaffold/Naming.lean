import Scaffold.Language
import Scaffold.Text.Character

namespace Scaffold.Naming

def stem (path : String) : String := (Path.stem? path).getD ""

def testFile (path : String) (language : Language) : String :=
  match language with
  | .python => "test_" ++ stem path ++ ".py"
  | .javaScript | .typeScript => stem path ++ ".test.js"
  | _ =>
    match Path.extension? path with
    | some e => "test_" ++ stem path ++ "." ++ e
    | none => "test_" ++ stem path

def titleCaseAfter (afterLetter : Bool) : List Char → List Char
  | [] => []
  | c :: cs =>
    if Text.isLetter c then
      (if afterLetter then Text.lowerCase c else Text.upperCase c) ++ titleCaseAfter true cs
    else c :: titleCaseAfter false cs

/-- A text in which letters after letters are small and all others are capitals. -/
def titleCase (s : String) : String := String.ofList (titleCaseAfter false s.toList)

def testClass (stem : String) : String :=
  "Test" ++ String.ofList ((titleCase stem).toList.filter (· ≠ '_'))

end Scaffold.Naming
