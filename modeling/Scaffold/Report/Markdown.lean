import Scaffold.Naming
import Scaffold.Outline

namespace Scaffold.Report

def defaultDocstringLimit : Nat := 100

def excerpt (limit : Nat) (text : String) : String :=
  if text.toList.length ≤ limit then text
  else String.ofList (text.toList.take limit) ++ "..."

namespace Markdown

def description (limit : Nat) : Option String → List String
  | some text => ["  - Description: " ++ excerpt limit text]
  | none => []

def heading (name : String) (line : Nat) : String :=
  "- **" ++ name ++ "** (Line " ++ toString line ++ ")"

def functionEntry (limit : Nat) (f : Signature) : List String :=
  [heading f.name f.line] ++ description limit f.docstring ++
    ["  - Arguments: " ++ toString f.args.length ++ " (" ++
      (if f.args.isEmpty then "none" else Text.joinWith ", " f.args) ++ ")", ""]

def classEntry (limit : Nat) (c : ClassOutline) : List String :=
  [heading c.name c.line] ++ description limit c.docstring ++
    ["  - Methods: " ++ toString c.methods.length] ++
    (c.methods.map fun m => "    - " ++ m.name ++ " (Line " ++ toString m.line ++ ")") ++ [""]

def listing {α : Type} (title : String) (entry : α → List String) : List α → List String
  | [] => []
  | xs => [title, ""] ++ xs.flatMap entry

def opening (o : Outline) : List String :=
  ["# Test Report for " ++ (Path.fileName? o.path).getD o.path, "",
    "This report details the test coverage for the source file: `" ++ o.path ++ "`", "",
    "## Source Code Analysis",
    "- Language: " ++ o.language.tag,
    "- Total Functions: " ++ toString o.functions.length,
    "- Total Classes: " ++ toString o.classes.length, ""]

def closing (o : Outline) : List String :=
  ["## Test Coverage Status",
    "- Basic tests: ✅ Generated",
    "- Edge case tests: ⚠️ Manual implementation needed",
    "- Integration tests: ❌ Not implemented",
    "",
    "## Next Steps",
    "1. Review the generated tests",
    "2. Implement the actual test logic in the TODO sections",
    "3. Add more specific assertions based on expected behavior",
    "4. Run the tests to validate functionality",
    "",
    "## Test File Location",
    "The test file has been generated as: `" ++ Naming.testFile o.path o.language ++ "`"]

def render (limit : Nat) (o : Outline) : String :=
  Text.lines (opening o ++ listing "## Functions Analyzed" (functionEntry limit) o.functions ++
    listing "## Classes Analyzed" (classEntry limit) o.classes ++ closing o)

end Markdown

end Scaffold.Report
