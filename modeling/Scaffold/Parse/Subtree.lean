import Scaffold.Grammar.Basic
import Scaffold.Syntax.Source
import Scaffold.Syntax.Tree

namespace Scaffold.Parse

inductive Symbol where
  | grammar (number : Nat)
  | error
  | errorPart
  deriving DecidableEq, Repr

namespace Symbol

def isError : Symbol → Bool
  | error => true
  | _ => false

def token? : Symbol → Option Nat
  | grammar n => some n
  | _ => none

end Symbol

namespace Cost

def recovery : Nat := 500
def missingToken : Nat := 110
def skippedTree : Nat := 100
def skippedByte : Nat := 1
def skippedRow : Nat := 30

def stretch (src : Source) (i j : Nat) : Nat :=
  src.bytesBetween i j * skippedByte + src.rowsBetween i j * skippedRow

end Cost

/-- What is known of a subtree without looking below it. Blank space before the text belongs to the
subtree: it runs from `start`, and its text from `first` to `stop`. -/
structure Summary (σ : Type) where
  symbol : Symbol
  production : Option Nat
  start : Nat
  first : Nat
  stop : Nat
  /-- Set aside between two parts of a construct rather than being one. -/
  extra : Bool
  missing : Bool
  keyword : Bool
  cost : Nat
  weight : Int
  visibleChildren : Nat
  visibleBelow : Nat
  layout : Option σ
  layoutChanged : Bool

inductive Subtree (σ : Type) where
  | mk (summary : Summary σ) (children : Array (Subtree σ))

namespace Subtree

variable {κ σ : Type}

def summary : Subtree σ → Summary σ
  | mk s _ => s

def children : Subtree σ → Array (Subtree σ)
  | mk _ cs => cs

def symbol (t : Subtree σ) : Symbol := t.summary.symbol

def extra (t : Subtree σ) : Bool := t.summary.extra

def isError (t : Subtree σ) : Bool := t.symbol.isError

def token (t : Subtree σ) : Nat := t.symbol.token?.getD 0

def isEnd (t : Subtree σ) : Bool := t.symbol == .grammar 0

def setExtra (extra : Bool) : Subtree σ → Subtree σ
  | mk s cs => mk { s with extra } cs

def setSymbol (symbol : Symbol) : Subtree σ → Subtree σ
  | mk s cs => mk { s with symbol } cs

def addWeight (n : Int) : Subtree σ → Subtree σ
  | mk s cs => mk { s with weight := s.weight + n } cs

def isVisible (g : Grammar κ) (t : Subtree σ) : Bool :=
  match t.symbol with
  | .grammar n => g.isVisible n
  | .error => true
  | .errorPart => false

def progress (g : Grammar κ) (t : Subtree σ) : Nat :=
  t.summary.visibleBelow + (if t.isVisible g then 1 else 0) +
    (if t.symbol == .errorPart then 1 else 0)

def isEmpty (src : Source) (t : Subtree σ) : Bool :=
  src.bytesBetween t.summary.start t.summary.stop == 0

def leaf (symbol : Symbol) (start first stop : Nat) : Subtree σ :=
  mk { symbol, production := none, start, first, stop
       extra := symbol == .grammar 0
       missing := false, keyword := false, cost := 0, weight := 0
       visibleChildren := 0, visibleBelow := 0, layout := none, layoutChanged := false } #[]

def missingLeaf (token place : Nat) : Subtree σ :=
  match leaf (.grammar token) place place place with
  | mk s cs => mk { s with missing := true, cost := Cost.missingToken + Cost.recovery } cs

private def skipCost (g : Grammar κ) (t : Subtree σ) : Nat :=
  if t.extra || (t.isError && t.children.isEmpty) then 0
  else if t.isVisible g then Cost.skippedTree
  else if t.children.isEmpty then 0
  else Cost.skippedTree * t.summary.visibleChildren

private structure Tally where
  cost : Nat
  weight : Int
  visibleChildren : Nat
  visibleBelow : Nat
  parts : Nat

private def Tally.add (g : Grammar κ) (symbol : Symbol) (production : Option (Grammar.Production κ))
    (t : Tally) (child : Subtree σ) : Tally :=
  let renamed := !child.extra && !child.isEnd &&
    ((production.bind (·.steps[t.parts]?)).bind (·.rename)).isSome
  let shown := renamed || child.isVisible g
  { cost := t.cost + (if child.symbol == .errorPart then 0 else child.summary.cost) +
      (if symbol == .error || symbol == .errorPart then skipCost g child else 0)
    weight := t.weight + child.summary.weight
    visibleChildren := t.visibleChildren +
      (if shown then 1 else if child.children.isEmpty then 0 else child.summary.visibleChildren)
    visibleBelow := t.visibleBelow + child.summary.visibleBelow + (if shown then 1 else 0)
    parts := if child.extra then t.parts else t.parts + 1 }

def node (g : Grammar κ) (src : Source) (symbol : Symbol) (production : Option Nat) (place : Nat)
    (children : Array (Subtree σ)) : Subtree σ :=
  let rule := production.bind g.production?
  let tally := children.foldl (Tally.add g symbol rule) ⟨0, 0, 0, 0, 0⟩
  let start := (children[0]?.map (·.summary.start)).getD place
  let first := (children[0]?.map (·.summary.first)).getD place
  let stop := (children.back?.map (·.summary.stop)).getD place
  let broken := symbol == .error || symbol == .errorPart
  mk { symbol, production, start, first, stop
       extra := false, missing := false, keyword := false
       cost := tally.cost + if broken then Cost.recovery + Cost.stretch src first stop else 0
       weight := tally.weight
       visibleChildren := tally.visibleChildren, visibleBelow := tally.visibleBelow
       layout := none, layoutChanged := children.any (·.summary.layoutChanged) } children

def compare : Nat → Subtree σ → Subtree σ → Ordering
  | 0, _, _ => .eq
  | fuel + 1, a, b =>
    let rank := fun (t : Subtree σ) => match t.symbol with
      | .grammar n => n
      | .errorPart => 65534
      | .error => 65535
    (Ord.compare (rank a) (rank b)).then <|
      (Ord.compare a.children.size b.children.size).then <|
        (a.children.zip b.children).foldl (fun o (x, y) => o.then (compare fuel x y)) .eq

def prefers (a b : Subtree σ) : Bool :=
  if b.summary.cost != a.summary.cost then b.summary.cost < a.summary.cost
  else if b.summary.weight != a.summary.weight then b.summary.weight > a.summary.weight
  else if a.summary.cost > 0 then true
  else compare 64 a b == .gt

end Subtree

end Scaffold.Parse
