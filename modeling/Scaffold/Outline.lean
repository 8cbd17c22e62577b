import Scaffold.Language

namespace Scaffold

structure Signature where
  name : String
  line : Nat
  args : List String
  docstring : Option String
  isAsync : Bool
  deriving DecidableEq, Repr

namespace Signature

def bare (name : String) (line : Nat) : Signature := ⟨name, line, [], none, false⟩

end Signature

structure ClassOutline where
  name : String
  line : Nat
  docstring : Option String
  methods : List Signature
  deriving DecidableEq, Repr

structure Outline where
  language : Language
  path : String
  functions : List Signature
  classes : List ClassOutline
  deriving DecidableEq, Repr

namespace Outline

def methodCount (o : Outline) : Nat := o.classes.foldl (fun n c => n + c.methods.length) 0

end Outline

def isPublicFunction (name : String) : Bool := name.toList.head? != some '_'

/-- A method is public unless its name begins with exactly one underscore. -/
def isPublicMethod (name : String) : Bool :=
  isPublicFunction name || ['_', '_'].isPrefixOf name.toList

end Scaffold
