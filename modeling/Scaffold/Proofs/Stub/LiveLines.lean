import Scaffold.Proofs.Stub.Blocks
import Scaffold.Proofs.Text.Beginnings

namespace Scaffold.Stub.Unittest

/-- The words that begin statements in which parentheses call nothing. -/
def headingWords : List String := ["import ", "from ", "class ", "def "]

def assigned (statement : List Char) : List Char :=
  if '=' ∈ statement then (statement.dropWhile (· ≠ '=')).drop 2 else statement

/-- What a statement calls: the text before the last parenthesis that opens. -/
def called? (line : String) : Option String :=
  if headingWords.any fun word => Text.begins word line then none
  else
    match (assigned (line.toList.dropWhile Text.isBlank)).reverse.dropWhile (· ≠ '(') with
    | [] => none
    | _ :: callee => some (String.ofList callee.reverse)

def commentedCall? (line : String) : Option String :=
  if Text.begins "# result = " line then
    some (String.ofList ((line.toList.dropWhile Text.isBlank).drop 11))
  else none

def call (callee : String) (parameters : List String) : String :=
  let placeholders := parameters.map fun p => (Placeholder.ofParameter p).render Placeholder.pythonTrue
  callee ++ "(" ++ Text.joinWith ", " placeholders ++ ")"

section

variable {before : String}

theorem commentedCall?_eq_none (h : Text.parts "# result = " before = true) (after : String) :
    commentedCall? (before ++ after) = none := by
  rw [commentedCall?, Text.begins_append_of_parts h]
  rfl

theorem commentedCall?_comment (text : String) : commentedCall? ("        # result = " ++ text) = some text := by
  rw [commentedCall?, if_pos (Text.begins_append (by decide) (by decide) text), String.toList_append,
    Text.dropWhile_append_of_any (by decide)]
  exact congrArg some String.ofList_toList

theorem called?_heading (h : (headingWords.any fun word => Text.begins word before) = true) (after : String) :
    called? (before ++ after) = none := by
  rw [called?, if_pos]
  obtain ⟨word, hword, hbegins⟩ := List.any_eq_true.mp h
  have hne : ∀ word ∈ headingWords, word ≠ "" := by decide
  exact List.any_eq_true.mpr ⟨word, hword, Text.begins_append hbegins (hne word hword) after⟩

theorem called?_instance (callee : String) : called? ("        instance = " ++ (callee ++ "()")) = some callee := by
  have hwords : ∀ word ∈ headingWords, Text.parts word "        instance = " = true := by decide
  have hword : ¬ (headingWords.any fun word => Text.begins word ("        instance = " ++ (callee ++ "()"))) = true := by
    rw [Bool.not_eq_true, List.any_eq_false]
    intro word hmem
    simp [Text.begins_append_of_parts (hwords word hmem)]
  have hblank : ("        instance = " ++ (callee ++ "()")).toList.dropWhile Text.isBlank =
      "instance = ".toList ++ (callee ++ "()").toList := by
    rw [String.toList_append, Text.dropWhile_append_of_any (by decide)]
    rfl
  have hassigned : assigned ("instance = ".toList ++ (callee ++ "()").toList) = callee.toList ++ ['(', ')'] := by
    rw [assigned, if_pos (List.mem_append_left _ (by decide)), Text.dropWhile_append_of_any (by decide),
      String.toList_append]
    rfl
  rw [called?, if_neg hword, hblank, hassigned]
  simp

end

variable {module : String}

def liveHeader (module : String) : List String :=
  ["import unittest", "from unittest.mock import Mock, patch", "import " ++ module,
    "class " ++ Naming.testClass module ++ "(unittest.TestCase):", "    def setUp(self):", "        pass"]

def liveMethodTest (module : String) (c : ClassOutline) (m : Signature) : List String :=
  ["    def test_" ++ Text.lowerText c.name ++ "_" ++ m.name ++ "_basic(self):",
    "        instance = " ++ module ++ "." ++ c.name ++ "()"]

def liveFooter : List String := ["if __name__ == '__main__':", "    unittest.main()"]

theorem filter_header (module : String) : (header module).filter (Text.isLive "#") = liveHeader module := by
  simp (disch := decide) only [header, liveHeader, String.append_assoc, List.filter_cons_of_pos,
    List.filter_cons_of_neg, List.filter_nil, Text.filter_live]

theorem filter_functionTests (module : String) (f : Signature) :
    (functionTests module f).filter (Text.isLive "#") = functionHeadings f := by
  simp (disch := decide) only [functionTests_eq, functionHeadings, String.append_assoc, List.filter_cons_of_neg,
    List.filter_nil, Text.filter_live, Text.filter_comment]

theorem filter_methodTest (module : String) (c : ClassOutline) (m : Signature) :
    (methodTest module c.name m).filter (Text.isLive "#") = liveMethodTest module c m := by
  simp (disch := decide) only [methodTest_eq, liveMethodTest, String.append_assoc, List.filter_cons_of_neg,
    List.filter_nil, Text.filter_live, Text.filter_comment]

theorem filter_footer : (footer ++ [""]).filter (Text.isLive "#") = liveFooter := by decide

theorem called_header (module : String) : (liveHeader module).filterMap called? = [] := by
  have hfixed : ∀ line ∈ ["import unittest", "from unittest.mock import Mock, patch", "    def setUp(self):",
      "        pass"], called? line = none := by decide
  simp only [List.forall_mem_cons] at hfixed
  simp (disch := decide) only [liveHeader, String.append_assoc, List.filterMap_cons, List.filterMap_nil, hfixed,
    called?_heading]

theorem called_functionHeadings (f : Signature) : (functionHeadings f).filterMap called? = [] := by
  simp (disch := decide) only [functionHeadings, String.append_assoc, List.filterMap_cons, List.filterMap_nil,
    called?_heading]

theorem called_liveMethodTest (module : String) (c : ClassOutline) (m : Signature) :
    (liveMethodTest module c m).filterMap called? = [module ++ "." ++ c.name] := by
  have hinstance := called?_instance (module ++ "." ++ c.name)
  simp only [String.append_assoc] at hinstance
  simp (disch := decide) only [liveMethodTest, String.append_assoc, List.filterMap_cons, List.filterMap_nil,
    called?_heading, hinstance]

theorem commentedCalls_header (module : String) : (header module).filterMap commentedCall? = [] := by
  have hfixed : ∀ line ∈ ["import unittest", "from unittest.mock import Mock, patch", "", "    def setUp(self):",
      "        # Setup code for tests", "        pass"], commentedCall? line = none := by decide
  simp only [List.forall_mem_cons] at hfixed
  simp (disch := decide) only [header, String.append_assoc, List.filterMap_cons, List.filterMap_nil, hfixed,
    commentedCall?_eq_none]

theorem commentedCalls_functionTests (module : String) (f : Signature) :
    (functionTests module f).filterMap commentedCall? = [call (module ++ "." ++ f.name) f.args] := by
  have hfixed : ∀ line ∈ ["", "        # self.assertIsNotNone(result)"], commentedCall? line = none := by decide
  simp only [List.forall_mem_cons] at hfixed
  simp (disch := decide) only [functionTests_eq, call, Placeholder.renderArgs, String.append_assoc,
    List.filterMap_cons, List.filterMap_nil, hfixed, commentedCall?_eq_none, commentedCall?_comment]

theorem commentedCalls_methodTest (module : String) (c : ClassOutline) (m : Signature) :
    (methodTest module c.name m).filterMap commentedCall? = [call ("instance." ++ m.name) m.args] := by
  have hfixed : ∀ line ∈ ["", "        # self.assertIsNotNone(result)"], commentedCall? line = none := by decide
  simp only [List.forall_mem_cons] at hfixed
  have hinstance : "        # result = instance." = "        # result = " ++ "instance." := by decide
  simp (disch := decide) only [methodTest_eq, call, Placeholder.renderArgs, hinstance, String.append_assoc,
    List.filterMap_cons, List.filterMap_nil, hfixed, commentedCall?_eq_none, commentedCall?_comment]

theorem filter_fileLines (o : Outline) : (fileLines o ++ [""]).filter (Text.isLive "#") =
    liveHeader (Naming.stem o.path) ++ o.functions.flatMap functionHeadings ++
      (o.classes.flatMap fun c => c.methods.flatMap (liveMethodTest (Naming.stem o.path) c)) ++ liveFooter := by
  rw [fileLines, List.append_assoc, List.filter_append, filter_footer]
  simp only [List.filter_append, List.filter_flatMap, filter_header, filter_functionTests, filter_methodTest]

theorem called_liveLines (o : Outline) :
    ((fileLines o ++ [""]).filter (Text.isLive "#")).filterMap called? =
      (o.classes.flatMap fun c => c.methods.map fun _ => Naming.stem o.path ++ "." ++ c.name) ++ ["unittest.main"] := by
  have hfooter : liveFooter.filterMap called? = ["unittest.main"] := by decide
  have hfunctions : (o.functions.flatMap functionHeadings).filterMap called? = [] := by
    simp [List.filterMap_flatMap, called_functionHeadings]
  simp only [filter_fileLines, List.filterMap_append, called_header, hfunctions, hfooter, List.filterMap_flatMap,
    called_liveMethodTest, ← List.map_eq_flatMap, List.nil_append]

theorem commentedCalls_fileLines (o : Outline) : (fileLines o ++ [""]).filterMap commentedCall? =
    (o.functions.map fun f => call (Naming.stem o.path ++ "." ++ f.name) f.args) ++
      o.classes.flatMap fun c => c.methods.map fun m => call ("instance." ++ m.name) m.args := by
  have hfooter : (footer ++ [""]).filterMap commentedCall? = [] := by decide
  rw [fileLines, List.append_assoc, List.filterMap_append, hfooter]
  simp only [List.filterMap_append, commentedCalls_header, List.filterMap_flatMap, commentedCalls_functionTests,
    commentedCalls_methodTest, ← List.map_eq_flatMap, List.nil_append, List.append_nil]

/-- The lines of a file that are neither blank nor comments are the imports, the headings of the class, of
`setUp` and of the tests, an instance in the test of each method, and the lines that run the tests. So nothing
is called but the classes whose methods are tested and the runner of the tests. Each function and each method
has its call in a comment, with one placeholder for each parameter. -/
theorem liveLines_render {o : Outline} (hwords : ∀ s ∈ o.words, Text.OneLine s) :
    Text.liveLines "#" (render o) =
        ["import unittest", "from unittest.mock import Mock, patch", "import " ++ Naming.stem o.path,
          "class " ++ Naming.testClass (Naming.stem o.path) ++ "(unittest.TestCase):",
          "    def setUp(self):", "        pass"] ++
        (o.functions.flatMap fun f =>
          ["    def test_" ++ f.name ++ "_basic(self):", "    def test_" ++ f.name ++ "_edge_cases(self):"]) ++
        (o.classes.flatMap fun c => c.methods.flatMap fun m =>
          ["    def test_" ++ Text.lowerText c.name ++ "_" ++ m.name ++ "_basic(self):",
            "        instance = " ++ Naming.stem o.path ++ "." ++ c.name ++ "()"]) ++
        ["if __name__ == '__main__':", "    unittest.main()"] ∧
      (Text.liveLines "#" (render o)).filterMap called? =
        (o.classes.flatMap fun c => c.methods.map fun _ => Naming.stem o.path ++ "." ++ c.name) ++
          ["unittest.main"] ∧
      (Text.split '\n' (render o)).filterMap commentedCall? =
        (o.functions.map fun f => call (Naming.stem o.path ++ "." ++ f.name) f.args) ++
          o.classes.flatMap fun c => c.methods.map fun m => call ("instance." ++ m.name) m.args := by
  rw [Text.liveLines, split_render hwords]
  exact ⟨filter_fileLines o, called_liveLines o, commentedCalls_fileLines o⟩

def numberSigns : Outline :=
  ⟨.python, "src/calc.py", [⟨"add #", 1, ["size", "# b"], none, false⟩],
    [⟨"#Counter", 5, none, [⟨"tick", 6, ["enabled"], none, false⟩]⟩, ⟨"Empty", 9, none, []⟩]⟩

theorem liveLines_numberSigns :
    (∀ s ∈ numberSigns.words, Text.OneLine s) ∧
      Text.liveLines "#" (render numberSigns) =
        ["import unittest", "from unittest.mock import Mock, patch", "import calc",
          "class TestCalc(unittest.TestCase):", "    def setUp(self):", "        pass",
          "    def test_add #_basic(self):", "    def test_add #_edge_cases(self):",
          "    def test_#counter_tick_basic(self):", "        instance = calc.#Counter()",
          "if __name__ == '__main__':", "    unittest.main()"] ∧
      (Text.liveLines "#" (render numberSigns)).filterMap called? = ["calc.#Counter", "unittest.main"] ∧
      (Text.split '\n' (render numberSigns)).filterMap commentedCall? =
        ["calc.add #(1, 'mock_# b')", "instance.tick(True)"] := by
  have hwords : ∀ s ∈ numberSigns.words, Text.OneLine s := by decide
  obtain ⟨hlive, hcalled, hcommented⟩ := liveLines_render hwords
  refine ⟨hwords, hlive.trans ?_, hcalled.trans ?_, hcommented.trans ?_⟩ <;> decide

end Scaffold.Stub.Unittest
