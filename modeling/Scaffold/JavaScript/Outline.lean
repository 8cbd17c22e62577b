import Scaffold.JavaScript.Block

namespace Scaffold.JavaScript

def binding (keyword : String) : Pattern :=
  [literal keyword, .someBlanks, .name, .blanks, literal "=", .blanks]

def functionValue : Pattern := [literal "function", .blanks, .parameters]

def arrow : Pattern := [.parameters, .blanks, literal "=>"]

def bareArrow : Pattern := [.word, .blanks, literal "=>"]

/-- The forms of functions, in the order in which they are listed. An arrow without parentheses counts
only after `const`. -/
def functionPatterns : List Pattern :=
  [[literal "function", .someBlanks, .name, .blanks, .parameters],
    binding "const" ++ functionValue, binding "const" ++ arrow, binding "const" ++ bareArrow,
    binding "let" ++ functionValue, binding "let" ++ arrow,
    binding "var" ++ functionValue, binding "var" ++ arrow]

def builtins : List String :=
  ["require", "console", "Math", "Array", "Object", "String", "Number", "Date", "Promise"]

def functions (text : List Char) : List Signature :=
  functionPatterns.flatMap fun p =>
    ((p.matches text).filter fun m => !builtins.contains m.name).map signatureOf

def outline (path text : String) : Logged Outline :=
  let found := (classPattern.matches text.toList).map classOf
  ⟨{ language := .javaScript, path, functions := functions text.toList, classes := found.map (·.value) },
    found.flatMap (·.events)⟩

end Scaffold.JavaScript
