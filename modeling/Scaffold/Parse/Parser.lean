import Scaffold.Parse.Repair

namespace Scaffold.Parse

open Grammar

section Run

variable {κ σ : Type} [BEq σ] (lang : Language κ σ) (src : Source)

private inductive Outcome where
  | settled
  | reduced (version : Nat)
  | stuck

private def act (v state : Nat) (token : Subtree σ) (actions : Array Action) : ParseM σ Outcome := do
  let mut last : Option Nat := none
  for action in actions do
    match action with
    | .shift next again =>
      if !again then
        shift lang v next token false
        return .settled
    | .setAside =>
      shift lang v state token true
      return .settled
    | .reduce p =>
      if let some reduced ← reduce lang src v p then last := some reduced
    | .accept =>
      accept lang src v token
      return .settled
    | .recover =>
      recover lang src v token
      return .settled
  return match last with
    | some reduced => .reduced reduced
    | none => .stuck

/-- Bring a token to a version: reduce until the token is shifted, set aside or does not fit. A keyword
that does not fit is tried once more as a word. -/
private def bring : Nat → Nat → Nat → Subtree σ → ParseM σ Unit
  | 0, v, _, _ => ParseM.modifyStack fun s => s.halt v
  | fuel + 1, v, state, token => do
    let actions ← if token.isError then pure #[] else actionsOn lang state token.token
    match ← act lang src v state token actions with
    | .settled => pure ()
    | .reduced reduced =>
      ParseM.modifyStack fun s => s.renumber reduced v
      bring fuel v (← ParseM.ask (·.state v)) token
    | .stuck =>
      let word := lang.grammar.word
      let asWord := token.summary.keyword && token.token != word &&
        !(← actionsOn lang state word).isEmpty
      if asWord then bring fuel v state (token.setSymbol (.grammar word))
      else if state == Automaton.broken then recover lang src v token
      else ParseM.modifyStack fun s => s.pause v token

def advance (v : Nat) : ParseM σ Unit := do
  let state ← ParseM.ask (·.state v)
  let token ← lookahead lang src v state
  bring lang src 4096 v state token

private def advancePast (v : Nat) : Nat → Nat → ParseM σ Nat
  | 0, last => return last
  | fuel + 1, last => do
    if !(← ParseM.ask fun s => (s.status v).isActive) then return last
    advance lang src v
    let place ← ParseM.ask (·.place v)
    if place > last || (v > 0 && place == last) then return place
    advancePast v fuel last

/-- Compare version `i`, of a known standing, with the versions from `j` on before it, and answer where
it stands afterwards. Of two versions the better one comes first, and one that is clearly worse goes. -/
private def settle (standing : Standing) : Nat → Nat → Nat → ParseM σ Nat
  | 0, i, _ => return i + 1
  | fuel + 1, i, j => do
    if i ≤ j then return i + 1
    match (← ParseM.ask (·.standing j)).compare standing with
    | .takeLeft =>
      ParseM.modifyStack fun s => s.remove i
      return i
    | .takeRight =>
      ParseM.modifyStack fun s => s.remove j
      settle standing fuel (i - 1) j
    | preference =>
      if ← ParseM.tryMerge lang.grammar src j i then return i
      if preference == .preferRight then ParseM.modifyStack fun s => s.swap i j
      settle standing fuel i (j + 1)

private def sortVersions : Nat → Nat → Option Nat → ParseM σ (Option Nat)
  | 0, _, least => return least
  | fuel + 1, i, least => do
    let count ← ParseM.ask (·.size)
    if count ≤ i then return least
    if ← ParseM.ask fun s => (s.status i).isHalted then
      ParseM.modifyStack fun s => s.remove i
      sortVersions fuel i least
    else
      let standing ← ParseM.ask (·.standing i)
      let least := if standing.inError then least
        else some (min standing.cost (least.getD standing.cost))
      let i ← settle lang src standing (2 * count + 2) i 0
      sortVersions fuel i least

private def wakeVersions : Nat → Nat → Bool → Option Nat → ParseM σ (Option Nat)
  | 0, _, _, least => return least
  | remaining + 1, i, awake, least => do
    match ← ParseM.ask (·.status i) with
    | .paused token =>
      if !awake && (← get).accepted < maxVersions then
        let cost ← ParseM.ask (·.cost i)
        ParseM.modifyStack fun s => s.resume i
        handleError lang src i token
        wakeVersions remaining (i + 1) true (some cost)
      else
        ParseM.modifyStack fun s => s.remove i
        wakeVersions remaining i awake least
    | _ => wakeVersions remaining (i + 1) true least

private def condense : ParseM σ (Option Nat) := do
  let least ← sortVersions lang src (4 * (← ParseM.ask (·.size)) + 4) 0 none
  ParseM.modifyStack fun s => { s with versions := s.versions.extract 0 maxVersions }
  wakeVersions lang src (← ParseM.ask (·.size)) 0 false least

/-- Advance the versions from index `v` on, each to the place that the ones before it have reached. -/
private def advanceAll : Nat → Nat → Nat → ParseM σ Nat
  | 0, _, last => return last
  | fuel + 1, v, last => do
    if (← ParseM.ask (·.size)) ≤ v then return last
    let last ← advancePast lang src v (src.size + 64) last
    advanceAll fuel (v + 1) last

private def run : Nat → Nat → ParseM σ Unit
  | 0, _ => pure ()
  | fuel + 1, last => do
    let last ← advanceAll lang src 64 0 last
    let least ← condense lang src
    let done := match (← get).finished, least with
      | some t, some cost => t.summary.cost < cost
      | some _, none => true
      | none, _ => false
    if done || (← ParseM.ask (·.size)) == 0 then pure () else run fuel last

def parse? : Option (Subtree σ) :=
  let session : Session σ := ⟨Automaton.initial lang.grammar, .ofState Automaton.start, none, 0⟩
  ((run lang src (16 * src.size + 256) 0).run session).2.finished

end Run

section View

variable {κ σ : Type} (lang : Language κ σ) (src : Source)

/-- Add the visible nodes of a subtree to those found before it. A hidden node is replaced by what lies
below it, which takes over the field of the hidden node where it has none of its own. -/
private def view : Nat → Option κ → Option String → Array (Syntax.Tree κ) → Subtree σ →
    Array (Syntax.Tree κ)
  | 0, _, _, found, _ => found
  | fuel + 1, rename, field, found, t =>
    let s := t.summary
    let kind := rename.orElse fun _ => match s.symbol with
      | .grammar n => if lang.grammar.isVisible n then lang.grammar.kind? n else none
      | .error => some lang.error
      | .errorPart => none
    let rule := s.production.bind lang.grammar.production?
    let inherited := if kind.isSome then none else field
    let (_, below) := t.children.foldl (fun ((i : Nat), (found : Array (Syntax.Tree κ))) child =>
      if child.extra then (i, view fuel none none found child)
      else
        let step := rule.bind (·.steps[i]?)
        let name := (step.bind (·.field)).orElse fun _ => inherited
        (i + 1, view fuel (step.bind (·.rename)) name found child))
      (0, if kind.isSome then #[] else found)
    match kind with
    | none => below
    | some k =>
      let origin : Syntax.Origin :=
        if s.missing then .missing else if s.symbol.isError then .error else .parsed
      found.push (.node ⟨k, lang.named k, field, origin, decide (0 < s.cost) || s.symbol.isError,
        ⟨s.first, s.stop, src.row s.first⟩⟩ below.toList)

def tree? [BEq σ] : Option (Syntax.Tree κ) := do
  let root ← parse? lang src
  (view lang src (16 * src.size + 1024) none none #[] root)[0]?

end View

end Scaffold.Parse
