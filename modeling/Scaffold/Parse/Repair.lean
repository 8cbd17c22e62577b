import Scaffold.Parse.Session

namespace Scaffold.Parse

open Grammar

def maxLandmarkDepth : Nat := 16

def maxCostDifference : Nat := 18 * Cost.skippedTree

structure Standing where
  cost : Nat
  progress : Nat
  weight : Int
  inError : Bool

inductive Preference where
  | takeLeft
  | preferLeft
  | neither
  | preferRight
  | takeRight
  deriving DecidableEq, Repr

def Standing.compare (a b : Standing) : Preference :=
  if !a.inError && b.inError then
    if a.cost < b.cost then .takeLeft else .preferLeft
  else if a.inError && !b.inError then
    if b.cost < a.cost then .takeRight else .preferRight
  else if a.cost < b.cost then
    if (b.cost - a.cost) * (1 + a.progress) > maxCostDifference then .takeLeft else .preferLeft
  else if b.cost < a.cost then
    if (a.cost - b.cost) * (1 + b.progress) > maxCostDifference then .takeRight else .preferRight
  else if a.weight > b.weight then .preferLeft
  else if b.weight > a.weight then .preferRight
  else .neither

variable {κ σ : Type} [BEq σ] (lang : Language κ σ) (src : Source)

def Stack.standing (s : Stack σ) (v : Nat) : Standing where
  cost := s.cost v + if (s.status v).isPaused then Cost.skippedTree else 0
  progress := s.progressSinceError v
  weight := (s.top v).weight
  inError := (s.status v).isPaused || s.state v == Automaton.broken

def betterExists (v cost : Nat) : ParseM σ Bool := do
  if ((← get).finished.map fun t => decide (t.summary.cost ≤ cost)).getD false then return true
  ParseM.ask fun s =>
    let own : Standing := ⟨cost, s.progressSinceError v, (s.top v).weight, false⟩
    (List.range s.size).any fun i =>
      i != v && (s.status i).isActive && !(s.place i < s.place v) &&
        match own.compare (s.standing i) with
        | .takeRight => true
        | .preferRight => s.canMerge i v
        | _ => false

private def reductionsOn (state : Nat) (tokens : List Nat) : ParseM σ (Bool × Array Nat) := do
  let mut shifts := false
  let mut found : Array (Nat × Nat × Nat) := #[]
  for token in tokens do
    for action in ← actionsOn lang state token do
      match action with
      | .shift _ again => if !again then shifts := true
      | .recover => shifts := true
      | .reduce p =>
        if let some rule := lang.grammar.production? p then
          let key := (rule.head, rule.steps.size)
          if !rule.steps.isEmpty && !found.any fun (h, n, _) => (h, n) == key then
            found := found.push (rule.head, rule.steps.size, p)
      | _ => pure ()
  return (shifts, found.map fun (_, _, p) => p)

/-- Make all reductions that a version allows on a token, or on any token if none is given, and all
that these allow in turn. With a token, versions that cannot shift it in the end are dropped; the answer
tells whether one can. -/
private def reduceAll (starting : Nat) (token : Option Nat) : ParseM σ Bool := do
  let before ← ParseM.ask (·.size)
  let tokens := match token with
    | some t => [t]
    | none => (List.range lang.grammar.tokenCount).drop 1
  let mut canShift := false
  let mut version := starting
  for i in [0:1024] do
    let count ← ParseM.ask (·.size)
    if version ≥ count then break
    let mut merged := false
    for j in [before:version] do
      if ← ParseM.tryMerge lang.grammar src j version then
        merged := true
        break
    if merged then continue
    let state ← ParseM.ask (·.state version)
    let (shifts, productions) ← reductionsOn lang state tokens
    let mut last : Option Nat := none
    for p in productions do
      last ← reduce lang src version p
    if shifts then canShift := true
    else
      match last with
      | some reduced =>
        if i < maxVersions then
          ParseM.modifyStack fun s => s.renumber reduced version
          continue
        else if token.isSome then ParseM.modifyStack fun s => s.remove version
      | none => if token.isSome then ParseM.modifyStack fun s => s.remove version
    version := if version == starting then count else version + 1
  return canShift

/-- Go back to the state at a depth below the top of a version, and make an error of what was read
since. -/
private def recoverTo (v depth goal : Nat) : ParseM σ Bool := do
  let slices ← ParseM.onStack fun s => s.pop v depth
  let mut previous : Option Nat := none
  for slice in slices do
    if some slice.version == previous then continue
    if (← ParseM.ask (·.state slice.version)) != goal then
      ParseM.modifyStack fun s => s.halt slice.version
      continue
    let popped ← ParseM.onStack fun s => s.popError slice.version
    let earlier := (popped.map (·.children)).getD #[]
    let (parts, extras) := splitExtras (earlier ++ slice.subtrees)
    if !parts.isEmpty then
      let error := Subtree.node lang.grammar src .error none 0 parts
      push lang slice.version (some (error.setExtra true)) goal
    for t in extras do
      push lang slice.version (some t) goal
    previous := some slice.version
  return previous.isSome

private def recoverToLandmark (v : Nat) (token : Subtree σ) : ParseM σ Bool := do
  let (place, cost, progress) ← ParseM.ask fun s => (s.place v, s.cost v, s.progressSinceError v)
  for mark in ← ParseM.ask fun s => (s.version v).landmarks do
    if mark.state == Automaton.broken || mark.place == place then continue
    let depth := if progress > 0 then mark.depth + 1 else mark.depth
    let redundant ← ParseM.ask fun s =>
      (List.range s.size).any fun j => s.state j == mark.state && s.place j == place
    if redundant then continue
    let newCost := cost + mark.depth * Cost.skippedTree + Cost.stretch src mark.place place
    if ← betterExists v newCost then return false
    if !(← actionsOn lang mark.state token.token).isEmpty then
      if ← recoverTo lang src v depth mark.state then return true
  return false

/-- Pass over a token: wrap it into an error, together with what was passed over before. -/
private def skipToken (v : Nat) (token : Subtree σ) : ParseM σ Unit := do
  let progress ← ParseM.ask (·.progressSinceError v)
  let token := if !token.isError && lang.grammar.extras.mem token.token then token.setExtra true else token
  let mut part := Subtree.node lang.grammar src .errorPart none 0 #[token]
  if progress > 0 then
    let slices ← ParseM.onStack fun s => s.pop v 1
    if let some slice := slices[0]? then
      ParseM.modifyStack fun s => { s with versions := s.versions.extract 0 (slice.version + 1) }
      ParseM.modifyStack fun s => s.renumber slice.version v
      part := Subtree.node lang.grammar src .errorPart none 0 (slice.subtrees.push part)
  push lang v (some part) Automaton.broken
  if token.summary.layout.isSome then
    ParseM.modifyStack fun s => s.setLayout v token.summary.layout

/-- Go on in the broken state: go back to a landmark if the token fits there, and pass over the token. -/
def recover (v : Nat) (token : Subtree σ) : ParseM σ Unit := do
  let before ← ParseM.ask (·.size)
  let cost ← ParseM.ask (·.cost v)
  let recovered ← if token.isError then pure false else recoverToLandmark lang src v token
  ParseM.modifyStack fun s =>
    { s with versions := s.versions.extract 0 before ++
        (s.versions.extract before s.versions.size).filter (·.status.isActive) }
  if recovered && ((← ParseM.ask (·.size)) > maxVersions || token.summary.layoutChanged) then
    ParseM.modifyStack fun s => s.halt v
  else if token.isEnd then
    let place ← ParseM.ask (·.place v)
    push lang v (some (Subtree.node lang.grammar src .error none place #[])) Automaton.start
    accept lang src v token
  else
    let newCost := cost + Cost.skippedTree + Cost.stretch src token.summary.start token.summary.stop
    if ← betterExists v newCost then ParseM.modifyStack fun s => s.halt v
    else skipToken lang src v token

/-- Find a token whose absence explains the error: after it, the token at hand lets a production be
closed and can then be shifted. -/
private def insertMissing (v : Nat) (token : Subtree σ) : ParseM σ Bool := do
  let state ← ParseM.ask (·.state v)
  let place ← ParseM.ask (·.place v)
  for missing in (List.range lang.grammar.tokenCount).drop 1 do
    if let some (.shift next _) := (← actionsOn lang state missing).back? then
      if next != state then
        if let some (.reduce _) := (← actionsOn lang next token.token)[0]? then
          let copy ← ParseM.ask (·.size)
          ParseM.modifyStack fun s => s.copyVersion v
          push lang copy (some (Subtree.missingLeaf missing place)) next
          let token? := if token.isEnd then none else some token.token
          if ← reduceAll lang src copy token? then return true
  return false

def handleError (v : Nat) (token : Subtree σ) : ParseM σ Unit := do
  let before ← ParseM.ask (·.size)
  let _ ← reduceAll lang src v none
  let count ← ParseM.ask (·.size)
  let mut inserted := false
  for w in v :: (List.range count).drop before do
    if !inserted && !token.isError then
      inserted ← insertMissing lang src w token
    push lang w none Automaton.broken
  for _ in [before:count] do
    let _ ← ParseM.tryMerge lang.grammar src v before
  ParseM.modifyStack fun s => s.recordLandmarks v maxLandmarkDepth
  recover lang src v token

end Scaffold.Parse
