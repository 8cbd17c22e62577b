import Scaffold.Stub.Jest
import Scaffold.Stub.Unittest

namespace Scaffold

inductive Convention where
  | unittest
  | jest
  deriving DecidableEq, Repr

namespace Convention

def ofLanguage? : Language → Option Convention
  | .python => some unittest
  | .javaScript | .typeScript => some jest
  | _ => none

def tag : Convention → String
  | unittest => "unittest"
  | jest => "jest"

def ofTag? (tag : String) : Option Convention := [unittest, jest].find? fun c => c.tag = tag

def render : Convention → Outline → String
  | unittest => Stub.Unittest.render
  | jest => Stub.Jest.render

end Convention

end Scaffold
