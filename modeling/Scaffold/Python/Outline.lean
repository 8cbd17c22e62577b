import Scaffold.Docstring
import Scaffold.Python.Definition
import Scaffold.Python.Literal
import Scaffold.Python.Parser
import Scaffold.Syntax.Tree

namespace Scaffold.Python

section Reading

variable (src : Source)

def textOf (t : Tree) : String := src.slice t.span.start t.span.stop

def nameOf (t : Tree) : String := ((t.childByField? "name").map (textOf src)).getD ""

def isAsync (t : Tree) : Bool := t.children.head?.any fun c => c.kind = .symbol "async"

/-- What an entry of a parameter list means for the parameters that can be given by position and by
name: it is one of them, it makes those before it be given by position only, it is the last one, or it
has no name of its own. -/
inductive Entry where
  | name (text : String)
  | barrier
  | stop
  | unnamed
  deriving DecidableEq, Repr

private def isSplat (k : Kind) : Bool := k = .listSplatPattern || k = .dictionarySplatPattern

private def named? : Option Tree → Entry
  | some t =>
    if t.kind = .identifier then .name (textOf src t)
    else if isSplat t.kind then .stop
    else .unnamed
  | none => .unnamed

def entryOf (t : Tree) : Entry :=
  match t.kind with
  | .identifier => .name (textOf src t)
  | .defaultParameter | .typedDefaultParameter => named? src (t.childByField? "name")
  | .typedParameter => named? src t.namedChildren.head?
  | .positionalSeparator => .barrier
  | .keywordSeparator | .listSplatPattern | .dictionarySplatPattern => .stop
  | _ => .unnamed

def namesAmong (found : List String) : List Entry → List String
  | [] => found
  | .name text :: es => namesAmong (found ++ [text]) es
  | .barrier :: es => namesAmong [] es
  | .stop :: _ => found
  | .unnamed :: es => namesAmong found es

def receiver : String := "self"

def parametersOf (t : Tree) : List String :=
  match t.childByField? "parameters" with
  | some ps => (namesAmong [] (ps.namedChildren.map (entryOf src))).filter (· ≠ receiver)
  | none => []

/-- The texts of the string literals that an expression is made of; `none` if it is no string or one
of its parts has no text. -/
def stringContent? (t : Tree) : Option String :=
  match t.kind with
  | .string => Literal.content? (textOf src t)
  | .concatenatedString =>
    ((t.namedChildren.filter fun c => c.kind = .string).mapM
      fun c => Literal.content? (textOf src c)).map String.join
  | _ => none

/-- The docstring of a definition: the string that its body begins with, if the statement has nothing
else. -/
def docstringOf (t : Tree) : Option String := do
  let body ← t.childByField? "body"
  let first ← body.namedChildren.find? fun c => c.kind ≠ .comment
  guard (first.kind = .expressionStatement)
  match first.namedChildren with
  | [e] => (stringContent? src e).map Docstring.clean
  | _ => none

def signatureOf (t : Tree) : Signature :=
  ⟨nameOf src t, t.line, parametersOf src t, docstringOf src t, isAsync t⟩

def functionOf? (t : Tree) : Option Tree :=
  match t.kind with
  | .functionDefinition => some t
  | .decoratedDefinition =>
    (t.childByField? "definition").filter fun d => d.kind = .functionDefinition
  | _ => none

def methodsOf (t : Tree) : List Tree :=
  match t.childByField? "body" with
  | some body => body.namedChildren.filterMap functionOf?
  | none => []

def classOf (t : Tree) : ClassOutline :=
  ⟨nameOf src t, t.line, docstringOf src t,
    ((methodsOf t).filter fun m => isPublicMethod (nameOf src m)).map (signatureOf src)⟩

def freeFunctions (ds : List Position) : List Tree :=
  (ds.filter fun d => d.kind = .functionDefinition && !d.isMethod).map (·.tree)

def classes (ds : List Position) : List Tree :=
  (ds.filter fun d => d.kind = .classDefinition).map (·.tree)

def outlineOf (path : String) (t : Tree) : Outline :=
  let ds := definitions t
  { language := .python, path
    functions := ((freeFunctions ds).filter fun f => isPublicFunction (nameOf src f)).map (signatureOf src)
    classes := (classes ds).map (classOf src) }

end Reading

inductive SyntaxError where
  | missing (label : String) (line : Nat)
  | invalid (line : Nat)
  | invalidSomewhere
  | noTree
  deriving DecidableEq, Repr

namespace SyntaxError

def message : SyntaxError → String
  | missing label line => "missing '" ++ label ++ "' at line " ++ toString line
  | invalid line => "invalid syntax at line " ++ toString line
  | invalidSomewhere => "invalid syntax"
  | noTree => "parser produced no tree"

def ofFlaw : Option Tree → SyntaxError
  | some t =>
    if t.info.origin = .missing then missing t.kind.label t.line else invalid t.line
  | none => invalidSomewhere

end SyntaxError

def outlineOfTree (src : Source) (path : String) (t : Tree) : Except SyntaxError Outline :=
  if t.info.flawed then .error (.ofFlaw t.firstFlaw?) else .ok (outlineOf src path t)

def outlineOfParse (src : Source) (path : String) : Option Tree → Except SyntaxError Outline
  | some t => outlineOfTree src path t
  | none => .error .noTree

def outline (path text : String) : Except SyntaxError Outline :=
  let src := Source.ofString text
  outlineOfParse src path (Parse.tree? language src)

end Scaffold.Python
