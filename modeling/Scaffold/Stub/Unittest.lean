import Scaffold.Naming
import Scaffold.Outline
import Scaffold.Placeholder

namespace Scaffold.Stub.Unittest

private def arguments (s : Signature) : String := Placeholder.renderArgs Placeholder.pythonTrue s.args

def header (module : String) : List String :=
  ["import unittest", "from unittest.mock import Mock, patch", "", "import " ++ module, "",
    "class " ++ Naming.testClass module ++ "(unittest.TestCase):", "    def setUp(self):",
    "        # Setup code for tests", "        pass", ""]

def functionTests (module : String) (f : Signature) : List String :=
  ["    def test_" ++ f.name ++ "_basic(self):",
    "        # Test basic functionality of " ++ f.name,
    "        # TODO: Implement actual test for " ++ f.name,
    "        # result = " ++ module ++ "." ++ f.name ++ "(" ++ arguments f ++ ")",
    "        # self.assertIsNotNone(result)",
    "",
    "    def test_" ++ f.name ++ "_edge_cases(self):",
    "        # Test edge cases for " ++ f.name,
    "        # TODO: Add edge case tests for " ++ f.name,
    ""]

def methodTest (module className : String) (m : Signature) : List String :=
  ["    def test_" ++ Text.lowerText className ++ "_" ++ m.name ++ "_basic(self):",
    "        # Test basic functionality of " ++ className ++ "." ++ m.name,
    "        instance = " ++ module ++ "." ++ className ++ "()",
    "        # result = instance." ++ m.name ++ "(" ++ arguments m ++ ")",
    "        # self.assertIsNotNone(result)",
    ""]

def footer : List String := ["", "if __name__ == '__main__':", "    unittest.main()"]

def render (o : Outline) : String :=
  let module := Naming.stem o.path
  Text.lines (header module ++ o.functions.flatMap (functionTests module) ++
    (o.classes.flatMap fun c => c.methods.flatMap (methodTest module c.name)) ++ footer)

end Scaffold.Stub.Unittest
