import Scaffold.Grammar.Automaton
import Scaffold.Parse.Stack

namespace Scaffold.Parse

open Grammar

structure LayoutToken (σ : Type) where
  token : Nat
  first : Nat
  stop : Nat
  layout : σ

inductive Lexed where
  | found (token first stop : Nat)
  | stuck (first reached : Nat)

/-- A grammar with the means to find its tokens. Both searches are told which tokens may come. -/
structure Language (κ σ : Type) where
  grammar : Grammar κ
  error : κ
  named : κ → Bool
  layoutToken? : Source → TokenSet → Option σ → Nat → Option (LayoutToken σ)
  token : Source → TokenSet → Nat → Lexed
  keyword? : Source → Nat → Nat → Option Nat
  recoverable : TokenSet

structure Session (σ : Type) where
  automaton : Automaton
  stack : Stack σ
  finished : Option (Subtree σ)
  accepted : Nat

abbrev ParseM (σ : Type) := StateM (Session σ)

namespace ParseM

variable {κ σ : Type}

@[noinline] def ask {α : Type} (f : Stack σ → α) : ParseM σ α := return f (← get).stack

def modifyStack (f : Stack σ → Stack σ) : ParseM σ Unit :=
  modify fun ⟨automaton, stack, finished, accepted⟩ => ⟨automaton, f stack, finished, accepted⟩

def onStack {α : Type} (f : Stack σ → α × Stack σ) : ParseM σ α :=
  modifyGet fun ⟨automaton, stack, finished, accepted⟩ =>
    let (result, stack) := f stack
    (result, ⟨automaton, stack, finished, accepted⟩)

def onAutomaton {α : Type} (f : Automaton → α × Automaton) : ParseM σ α :=
  modifyGet fun ⟨automaton, stack, finished, accepted⟩ =>
    let (result, automaton) := f automaton
    (result, ⟨automaton, stack, finished, accepted⟩)

def tryMerge [BEq σ] (g : Grammar κ) (src : Source) (a b : Nat) : ParseM σ Bool :=
  onStack fun s => if s.canMerge a b then (true, s.merge g src a b) else (false, s)

end ParseM

def maxVersions : Nat := 6

def maxVersionOverflow : Nat := 4

section Tokens

variable {κ σ : Type} [BEq σ] (lang : Language κ σ) (src : Source)

def validIn (state : Nat) : ParseM σ TokenSet := do
  if state == Automaton.broken then return lang.recoverable
  return ((← get).automaton.stateAt state).valid

/-- What a search for a token starts from: the tokens that may come, the layout, the place, and
whether anything was read since the last error. -/
structure Search (σ : Type) where
  valid : TokenSet
  layout : Option σ
  start : Nat
  advanced : Bool

private def layoutLeaf (s : Search σ) (t : LayoutToken σ) : Subtree σ :=
  match Subtree.leaf (.grammar t.token) s.start t.first t.stop with
  | .mk summary cs =>
    .mk { summary with layout := some t.layout, layoutChanged := s.layout != some t.layout } cs

private def plainLeaf (s : Search σ) (token first stop : Nat) : Subtree σ :=
  let keyword := if token == lang.grammar.word then lang.keyword? src first stop else none
  let symbol := match keyword with
    | some k => if s.valid.mem k then k else token
    | none => token
  match Subtree.leaf (.grammar symbol) s.start first stop with
  | .mk summary cs => .mk { summary with keyword := keyword.isSome } cs

/-- Search for a token from a place on. If no token that may come is found, any token will do
(`lost`), and as long as there is none either, characters are passed over (`skipped`). Tokens without
text are ignored where they could come again and again. -/
private def search (s : Search σ) : Nat → Bool → Option (Nat × Nat) → Nat → Subtree σ
  | 0, _, _, place => .leaf .error s.start place place
  | fuel + 1, lost, skipped, place =>
    let valid := if lost then lang.recoverable else s.valid
    let layoutToken := (lang.layoutToken? src valid s.layout place).filter fun t =>
      !(t.stop ≤ place && s.layout == some t.layout && (lost || !s.advanced))
    match layoutToken, skipped with
    | some _, some (first, stop) => .leaf .error s.start first stop
    | some t, none => layoutLeaf s t
    | none, _ =>
      match lang.token src valid place, skipped with
      | .found _ _ _, some (first, stop) => .leaf .error s.start first stop
      | .found token first stop, none => plainLeaf lang src s token first stop
      | .stuck first reached, _ =>
        if !lost then search s fuel true none s.start
        else
          let (since, last) := skipped.getD (first, first)
          if reached != last then search s fuel true (some (since, reached)) reached
          else if src.size ≤ reached then .leaf .error s.start since last
          else search s fuel true (some (since, reached + 1)) (reached + 1)

def lookahead (v state : Nat) : ParseM σ (Subtree σ) := do
  let valid ← validIn lang state
  let s : Search σ ← ParseM.ask fun stack =>
    ⟨valid, stack.layout v, stack.place v, stack.hasAdvanced src v⟩
  return search lang src s (2 * src.size + 4) (state == Automaton.broken) none s.start

end Tokens

section Steps

variable {κ σ : Type} [BEq σ] (lang : Language κ σ) (src : Source)

def actionsOn (state token : Nat) : ParseM σ (Array Action) :=
  ParseM.onAutomaton fun a => a.actions lang.grammar state token

def stateAfter (state symbol : Nat) : ParseM σ Nat :=
  ParseM.onAutomaton fun a =>
    let (n, a) := a.next lang.grammar state symbol
    (n.getD Automaton.broken, a)

def push (v : Nat) (subtree : Option (Subtree σ)) (state : Nat) : ParseM σ Unit :=
  ParseM.modifyStack fun s => s.push lang.grammar v subtree state

def shift (v state : Nat) (token : Subtree σ) (extra : Bool) : ParseM σ Unit := do
  push lang v (some (token.setExtra extra)) state
  if token.summary.layout.isSome then
    ParseM.modifyStack fun s => s.setLayout v token.summary.layout

def splitExtras (ts : Array (Subtree σ)) : Array (Subtree σ) × Array (Subtree σ) :=
  let tail := ts.toList.reverse.takeWhile (·.extra)
  (ts.extract 0 (ts.size - tail.length), tail.reverse.toArray)

private def grouped : List (Slice σ) → List (Nat × List (Array (Subtree σ)))
  | [] => []
  | s :: rest =>
    match grouped rest with
    | (v, ways) :: groups =>
      if v == s.version then (v, s.subtrees :: ways) :: groups
      else (s.version, [s.subtrees]) :: (v, ways) :: groups
    | [] => [(s.version, [s.subtrees])]

/-- Close a production: take its parts off a version and put one node in their place. Each way down
the stack makes a new version; the first of them is returned. -/
def reduce (v production : Nat) : ParseM σ (Option Nat) := do
  let some rule := lang.grammar.production? production | return none
  let before ← ParseM.ask (·.size)
  let slices ← ParseM.onStack fun s => s.pop v rule.steps.size
  let mut removed := 0
  for (version, ways) in grouped slices.toList do
    let version := version - removed
    if version > maxVersions + maxVersionOverflow then
      ParseM.modifyStack fun s => s.remove version
      removed := removed + 1
    else
      let (state, place) ← ParseM.ask fun s => (s.state version, s.place version)
      let build := fun ts => Subtree.node lang.grammar src (.grammar rule.head) (some production) place ts
      let mut best : Option (Subtree σ × Array (Subtree σ)) := none
      for way in ways do
        let (parts, extras) := splitExtras way
        let node := build parts
        best := match best with
          | none => some (node, extras)
          | some (old, kept) => if old.prefers node then some (node, extras) else some (old, kept)
      if let some (node, extras) := best then
        let next ← stateAfter lang state rule.head
        push lang version (some (node.addWeight rule.weight)) next
        for t in extras do
          push lang version (some t) next
        for j in [0:version] do
          if j != v then
            if ← ParseM.tryMerge lang.grammar src j version then
              removed := removed + 1
              break
  return if (← ParseM.ask (·.size)) > before then some before else none

/-- Finish a version at the end of the text, and keep its tree if it is the best so far. -/
def accept (v : Nat) (finish : Subtree σ) : ParseM σ Unit := do
  push lang v (some finish) Automaton.start
  let slices ← ParseM.onStack fun s => s.popAll v
  for slice in slices do
    let ts := slice.subtrees.toList
    let after := (ts.reverse.takeWhile (·.extra)).reverse
    match (ts.take (ts.length - after.length)).reverse with
    | [] => pure ()
    | top :: before =>
      let children := (before.reverse ++ top.children.toList ++ after).toArray
      let root := Subtree.node lang.grammar src top.symbol top.summary.production src.size children
      modify fun s =>
        let better := match s.finished with
          | none => true
          | some old => old.prefers root
        { s with accepted := s.accepted + 1, finished := if better then some root else s.finished }
  if let some slice := slices[0]? then
    ParseM.modifyStack fun s => s.remove slice.version
  ParseM.modifyStack fun s => s.halt v

end Steps

end Scaffold.Parse
