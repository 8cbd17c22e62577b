import Scaffold.Naming
import Scaffold.Outline
import Scaffold.Placeholder

namespace Scaffold.Stub.Jest

private def jestArguments (s : Signature) : String :=
  Placeholder.renderArgs Placeholder.javaScriptTrue s.args

def importLine (module : String) (names : List String) : String :=
  let listed := if names.isEmpty then "" else " " ++ Text.joinWith ", " names ++ " "
  "const \x7b" ++ listed ++ "\x7d = require('./" ++ module ++ "');"

def functionTests (f : Signature) : List String :=
  ["  describe('" ++ f.name ++ "', () => \x7b",
    "    test('should execute " ++ f.name ++ " successfully', () => \x7b",
    "      // TODO: Implement actual test for " ++ f.name,
    "      // const result = " ++ f.name ++ "(" ++ jestArguments f ++ ");",
    "      // expect(result).toBeDefined();",
    "    \x7d);",
    "",
    "    test('should handle edge cases for " ++ f.name ++ "', () => \x7b",
    "      // TODO: Add edge case tests for " ++ f.name,
    "    \x7d);",
    "  \x7d);",
    ""]

def render (o : Outline) : String :=
  let module := Naming.stem o.path
  Text.lines ([importLine module (o.functions.map (·.name)), "",
    "describe('" ++ module ++ "', () => \x7b"] ++ o.functions.flatMap functionTests ++ ["\x7d);"])

end Scaffold.Stub.Jest
