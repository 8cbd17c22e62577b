import Scaffold.Outline
import Scaffold.Python.Kind
import Scaffold.Syntax.Tree

namespace Scaffold.Python

abbrev Tree := Syntax.Tree Kind

structure Place where
  tree : Tree
  elifsBefore : Nat

namespace Place

def kind (p : Place) : Kind := p.tree.kind

/-- By how much a node nests what is below it. Blocks and decorators do not, the branches of a statement
belong to it, and each `elif` stands inside the branch before it. -/
def nesting (p : Place) : Nat :=
  match p.kind with
  | .block | .decoratedDefinition | .finallyClause => 0
  | .elseClause => p.elifsBefore
  | .elifClause => p.elifsBefore + 1
  | _ => 1

end Place

structure Position where
  place : Place
  around : List Place

namespace Position

def tree (p : Position) : Tree := p.place.tree

def kind (p : Position) : Kind := p.place.kind

def start (p : Position) : Nat := p.tree.span.start

/-- How deep a node is nested; the outermost node does not count. -/
def depth (p : Position) : Nat := (p.place :: p.around).dropLast.foldl (fun n place => n + place.nesting) 0

def owner? (p : Position) : List Place :=
  match p.around with
  | d :: rest => if d.kind = .decoratedDefinition then rest else d :: rest
  | [] => []

/-- Whether a definition stands directly in the body of a class. -/
def isMethod (p : Position) : Bool :=
  match p.owner? with
  | body :: holder :: _ => body.kind = .block && holder.kind = .classDefinition
  | _ => false

def isDefinition (p : Position) : Bool := p.kind = .functionDefinition || p.kind = .classDefinition

/-- Outer definitions come first, and those of one depth in the order of the text. -/
def before (p q : Position) : Bool :=
  p.depth < q.depth || (p.depth = q.depth && p.start ≤ q.start)

end Position

mutual

def positions (around : List Place) (elifsBefore : Nat) : Tree → List Position
  | .node i cs =>
    let here : Place := ⟨.node i cs, elifsBefore⟩
    ⟨here, around⟩ :: positionsAmong (here :: around) 0 cs

def positionsAmong (around : List Place) (elifsBefore : Nat) : List Tree → List Position
  | [] => []
  | c :: cs =>
    positions around elifsBefore c ++
      positionsAmong around (if c.kind = .elifClause then elifsBefore + 1 else elifsBefore) cs

end

def definitions (t : Tree) : List Position :=
  ((positions [] 0 t).filter Position.isDefinition).mergeSort Position.before

end Scaffold.Python
