namespace Scaffold.Syntax

structure Span where
  start : Nat
  stop : Nat
  row : Nat
  deriving DecidableEq, Repr, Inhabited

/-- How a node came about. A `missing` node stands for a token that the text does not have, and an
`error` node holds text that the grammar could not place. -/
inductive Origin where
  | parsed
  | missing
  | error
  deriving DecidableEq, Repr

/-- What a node says about itself. Tokens that are only punctuation or keywords are not `named`. A
node is `flawed` if it or something below it, seen or not, is missing or an error. -/
structure Node (κ : Type) where
  kind : κ
  named : Bool
  field : Option String
  origin : Origin
  flawed : Bool
  span : Span
  deriving DecidableEq, Repr

inductive Tree (κ : Type) where
  | node (info : Node κ) (children : List (Tree κ))

namespace Tree

variable {κ : Type}

def info : Tree κ → Node κ
  | node i _ => i

def children : Tree κ → List (Tree κ)
  | node _ cs => cs

def kind (t : Tree κ) : κ := t.info.kind

def span (t : Tree κ) : Span := t.info.span

def line (t : Tree κ) : Nat := t.span.row + 1

def namedChildren (t : Tree κ) : List (Tree κ) := t.children.filter (·.info.named)

def childByField? (t : Tree κ) (field : String) : Option (Tree κ) :=
  t.children.find? fun c => c.info.field == some field

theorem sizeOf_lt_of_mem_children [SizeOf κ] {c t : Tree κ} (h : c ∈ t.children) : sizeOf c < sizeOf t := by
  cases t with
  | node i cs =>
    have h : c ∈ cs := h
    have := List.sizeOf_lt_of_mem h
    simp only [node.sizeOf_spec]
    omega

end Tree

end Scaffold.Syntax

namespace Scaffold.Syntax.Tree

variable {κ : Type}

def isFlaw (t : Tree κ) : Bool := t.info.origin != .parsed

mutual

/-- The first flaw of a tree, looked for only below nodes that are flawed. -/
def firstFlaw? : Tree κ → Option (Tree κ)
  | node i cs => if i.origin != .parsed then some (node i cs) else firstFlawAmong? cs

def firstFlawAmong? : List (Tree κ) → Option (Tree κ)
  | [] => none
  | c :: cs =>
    match if c.info.flawed then firstFlaw? c else none with
    | some found => some found
    | none => firstFlawAmong? cs

end

end Scaffold.Syntax.Tree
