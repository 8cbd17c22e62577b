import Scaffold.Text.Case
import Scaffold.Text.Split

namespace Scaffold

inductive Placeholder where
  | text (parameter : String)
  | count
  | flag
  | mock (parameter : String)
  deriving DecidableEq, Repr

namespace Placeholder

def textHints : List String := ["name", "title", "text", "str"]

def countHints : List String := ["num", "count", "size", "int"]

def flagHints : List String := ["flag", "enabled", "bool"]

def hinted (parameter : String) (hints : List String) : Bool :=
  hints.any fun h => Text.occursIn h.toList (Text.lowerText parameter).toList

def ofParameter (parameter : String) : Placeholder :=
  if hinted parameter textHints then text parameter
  else if hinted parameter countHints then count
  else if hinted parameter flagHints then flag
  else mock parameter

def render (trueText : String) : Placeholder → String
  | text p => "'test_" ++ p ++ "'"
  | count => "1"
  | flag => trueText
  | mock p => "'mock_" ++ p ++ "'"

def renderArgs (trueText : String) (args : List String) : String :=
  Text.joinWith ", " (args.map fun a => (ofParameter a).render trueText)

def kind : Placeholder → String
  | text _ => "text"
  | count => "count"
  | flag => "flag"
  | mock _ => "mock"

def pythonTrue : String := "True"

def javaScriptTrue : String := "true"

end Placeholder

end Scaffold
