import Std.Data.HashMap
import Scaffold.Grammar.Basic

namespace Scaffold.Grammar

/-- A production of which the first `dot` steps have been read. -/
structure Item where
  production : Nat
  dot : Nat
  deriving BEq, Hashable, Repr

namespace Item

def before (a b : Item) : Bool :=
  a.production < b.production || (a.production == b.production && a.dot < b.dot)

def next (i : Item) : Item := { i with dot := i.dot + 1 }

end Item

abbrev Kernel := Array (Item × TokenSet)

def Kernel.insert (k : Kernel) (item : Item) (following : TokenSet) : Kernel :=
  match k.findIdx? (fun e => !e.1.before item) with
  | none => k.push (item, following)
  | some i =>
    match k[i]? with
    | some (found, old) =>
      if found == item then k.setIfInBounds i (item, old ||| following)
      else k.insertIdxIfInBounds i (item, following)
    | none => k

inductive Action where
  /-- Read the token and go to a state. An `again` shift would only restate a repetition in another
  way and is not taken. -/
  | shift (state : Nat) (again : Bool)
  | setAside
  | reduce (production : Nat)
  | accept
  | recover
  deriving BEq, Repr

structure State where
  kernel : Kernel
  /-- For each construct that may begin here, the tokens that may follow it; zero if it may not. -/
  expansion : Array TokenSet
  valid : TokenSet
  deriving Inhabited

end Scaffold.Grammar

namespace Scaffold

open Grammar

structure Automaton where
  states : Array State
  index : Std.HashMap Kernel Nat
  successors : Std.HashMap (Nat × Nat) Nat
  table : Std.HashMap (Nat × Nat) (Array Action)

namespace Automaton

variable {κ : Type} (g : Grammar κ)

/-- The state in which any token may come, entered when a text breaks off. -/
def broken : Nat := 0

def start : Nat := 1

def stepAt (i : Item) : Option (Step κ) := do (← g.production? i.production).steps[i.dot]?

def lastStep (i : Item) : Option (Step κ) :=
  if i.dot == 0 then none else do (← g.production? i.production).steps[i.dot - 1]?

def levelOf (i : Item) : Int := ((lastStep g i).bind (·.level)).getD 0

def headOf (i : Item) : Nat := ((g.production? i.production).map (·.head)).getD 0

private def expandItem (expansion : Array TokenSet) (item : Item) (following : TokenSet) :
    Array TokenSet :=
  match stepAt g item with
  | some step =>
    if g.isToken step.symbol then expansion
    else
      let after := match stepAt g item.next with
        | some s => g.first s.symbol
        | none => following
      (g.leading.getD (step.symbol - g.tokenCount) #[]).foldl (fun e l =>
        e.modify l.construct fun old =>
          old ||| l.following ||| (if l.inherits then after else 0)) expansion
  | none => expansion

private def validAfter (valid : TokenSet) (item : Item) (following : TokenSet) : TokenSet :=
  match stepAt g item with
  | some step => valid ||| g.first step.symbol
  | none => valid ||| following

def stateOf (kernel : Kernel) : State where
  kernel := kernel
  expansion := kernel.foldl (fun e (i, f) => expandItem g e i f) (Array.replicate g.ofHead.size 0)
  valid := kernel.foldl (fun v (i, f) => validAfter g v i f) g.extras

def initial : Automaton :=
  let first : Kernel := #[(⟨0, 0⟩, TokenSet.single 0)]
  let opening := stateOf g first
  { states := #[⟨#[], #[], (1 <<< g.tokenCount) - 1⟩,
      { opening with valid := opening.valid ||| TokenSet.single 0 }]
    index := (∅ : Std.HashMap Kernel Nat).insert first start
    successors := ∅
    table := ∅ }

def stateAt (a : Automaton) (state : Nat) : State := a.states.getD state default

/-- The items that a state leads to over a symbol. -/
def kernelAfter (s : State) (symbol : Nat) : Kernel :=
  let moved := s.kernel.foldl (fun (k : Kernel) (i, following) =>
    match stepAt g i with
    | some step => if step.symbol == symbol then k.insert i.next following else k
    | none => k) #[]
  (g.beginning.getD symbol #[]).foldl (fun k p =>
    match g.production? p with
    | some production =>
      let following := s.expansion.getD (production.head - g.tokenCount) 0
      if following == 0 then k else k.insert ⟨p, 1⟩ following
    | none => k) moved

def intern (a : Automaton) (kernel : Kernel) : Nat × Automaton :=
  match a.index[kernel]? with
  | some n => (n, a)
  | none =>
    match a with
    | ⟨states, index, successors, table⟩ =>
      let n := states.size
      (n, ⟨states.push (stateOf g kernel), index.insert kernel n, successors, table⟩)

def next (a : Automaton) (state symbol : Nat) : Option Nat × Automaton :=
  match a.successors[(state, symbol)]? with
  | some n => (some n, a)
  | none =>
    let kernel := kernelAfter g (a.stateAt state) symbol
    if kernel.isEmpty then (none, a)
    else
      match a.intern g kernel with
      | (n, ⟨states, index, successors, table⟩) =>
        (some n, ⟨states, index, successors.insert (state, symbol) n, table⟩)

/-- The productions that may be closed before a token, as long as none of higher level is among
them, and how their last steps associate. -/
structure Closing where
  productions : Array Nat
  level : Int
  left : Bool
  right : Bool
  neither : Bool

namespace Closing

def none : Closing := ⟨#[], 0, false, false, false⟩

def add (c : Closing) (i : Item) : Closing :=
  let level := levelOf g i
  let joined := fun (c : Closing) =>
    let assoc := (lastStep g i).bind (·.assoc)
    { productions := c.productions.push i.production, level
      left := c.left || assoc == some .left
      right := c.right || assoc == some .right
      neither := c.neither || assoc.isNone : Closing }
  if c.productions.isEmpty || level > c.level then joined none
  else if level == c.level then joined c
  else c

end Closing

private def completed (s : State) (token : Nat) : Array Item :=
  let ready := s.kernel.filterMap fun (i, following) =>
    if (stepAt g i).isNone && following.mem token then some i else none
  if s.kernel.any fun (i, _) => i.dot == 0 then
    (Array.range g.productions.size).foldl (fun found p =>
      match g.production? p with
      | some production =>
        let following := s.expansion.getD (production.head - g.tokenCount) 0
        if production.steps.isEmpty && following.mem token then found.push ⟨p, 0⟩ else found
      | none => found) ready
  else ready

structure Verdict where
  shift : Bool
  reduce : Bool
  again : Bool

/-- A conflict inside one repetition keeps both but marks the shift. Otherwise the higher level wins,
and on equal levels the associativity of the reductions. -/
private def decideConflict (s : State) (token : Nat) (closing : Closing) (done : Array Item) : Verdict :=
  let going := (s.kernel.map (·.1)).filter fun i =>
    0 < i.dot && match stepAt g i with
      | some step => (g.first step.symbol).mem token
      | none => false
  let heads := (going ++ done).map (headOf g)
  if heads.all (fun h => some h == heads[0]? && g.isRepetition h) then ⟨true, true, true⟩
  else
    let more := going.any fun i => levelOf g i > closing.level
    let less := going.any fun i => levelOf g i < closing.level
    if more && !less then ⟨true, false, false⟩
    else if less && !more then ⟨false, true, false⟩
    else if !less && !more then
      match closing.left, closing.neither, closing.right with
      | true, false, false => ⟨false, true, false⟩
      | false, false, true => ⟨true, false, false⟩
      | _, _, _ => ⟨true, true, false⟩
    else ⟨true, true, false⟩

private def compute (a : Automaton) (state token : Nat) : Array Action × Automaton :=
  let s := a.stateAt state
  let shifts := s.kernel.any fun (i, _) => match stepAt g i with
    | some step => (g.first step.symbol).mem token
    | none => false
  let done := completed g s token
  let closing := done.foldl (·.add g ·) Closing.none
  let reductions := closing.productions.map fun p => if p == 0 then Action.accept else .reduce p
  let verdict : Verdict :=
    if shifts && !done.isEmpty then decideConflict g s token closing done else ⟨shifts, true, false⟩
  let kept := if verdict.reduce then reductions else #[]
  if verdict.shift then
    let (target, a) := a.next g state token
    (match target with
      | some n => kept.push (.shift n verdict.again)
      | none => kept, a)
  else if kept.isEmpty && g.extras.mem token then (#[.setAside], a)
  else (kept, a)

def actions (a : Automaton) (state token : Nat) : Array Action × Automaton :=
  if state == broken then (#[.recover], a)
  else
    match a.table[(state, token)]? with
    | some found => (found, a)
    | none =>
      match a.compute g state token with
      | (found, ⟨states, index, successors, table⟩) =>
        (found, ⟨states, index, successors, table.insert (state, token) found⟩)

end Automaton

end Scaffold
