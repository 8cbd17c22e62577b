import Std.Data.HashMap
import Scaffold.Grammar.Rule

namespace Scaffold.Grammar

abbrev TokenSet := Nat

namespace TokenSet

def single (t : Nat) : TokenSet := 1 <<< t

def mem (s : TokenSet) (t : Nat) : Bool := s.testBit t

end TokenSet

/-- A grammar as it is written down. The first construct with a rule is the whole text; a kind
without a rule is a token that the lexer finds by its own pattern. -/
structure Spec (κ : Type) where
  finish : κ
  word : κ
  rules : List (κ × Option (Rule κ))
  layout : List κ
  extras : List κ
  inlined : List κ
  hidden : κ → Bool

structure Production (κ : Type) where
  head : Nat
  steps : Array (Step κ)
  weight : Int

/-- How a construct can begin: the leftmost constructs of its derivations, with the tokens that can
follow them there. If `inherits` holds, what follows the whole can follow the part as well. -/
structure Leading where
  construct : Nat
  following : TokenSet
  inherits : Bool

end Scaffold.Grammar

namespace Scaffold

open Grammar

/-- A numbered grammar with the tables that its automaton is built from. Production zero reads the
whole text. -/
structure Grammar (κ : Type) where
  tokens : Array κ
  constructs : Array (Option κ)
  hidden : Array Bool
  productions : Array (Production κ)
  ofHead : Array (Array Nat)
  beginning : Array (Array Nat)
  firsts : Array TokenSet
  leading : Array (Array Leading)
  word : Nat
  extras : TokenSet

namespace Grammar

variable {κ : Type}

def tokenCount (g : Grammar κ) : Nat := g.tokens.size

def isToken (g : Grammar κ) (symbol : Nat) : Bool := symbol < g.tokens.size

def first (g : Grammar κ) (symbol : Nat) : TokenSet := g.firsts.getD symbol 0

def production? (g : Grammar κ) (i : Nat) : Option (Production κ) := g.productions[i]?

def isRepetition (g : Grammar κ) (symbol : Nat) : Bool :=
  match g.constructs[symbol - g.tokens.size]? with
  | some none => g.tokens.size ≤ symbol
  | _ => false

def kind? (g : Grammar κ) (symbol : Nat) : Option κ :=
  if symbol < g.tokens.size then g.tokens[symbol]?
  else (g.constructs[symbol - g.tokens.size]?).join

def isVisible (g : Grammar κ) (symbol : Nat) : Bool := !g.hidden.getD symbol true

end Grammar

namespace Grammar

variable {κ : Type} [BEq κ] [Hashable κ]

def number (g : Grammar κ) (k : κ) : Nat := (g.tokens.findIdx? (· == k)).getD 0

def setOf (g : Grammar κ) (ks : List κ) : TokenSet :=
  ks.foldl (fun s k => s ||| TokenSet.single (g.number k)) 0

private def distinct {α : Type} [BEq α] (xs : List α) : Array α :=
  xs.foldl (fun seen x => if seen.contains x then seen else seen.push x) #[]

/-- The tokens of a specification: the end of the text, the word token, the others in the order in
which the rules first mention or define them, and those of the layout. -/
private def tokensOf (spec : Spec κ) : Array κ :=
  let ruled := spec.rules.filterMap fun (k, r) => r.map fun _ => k
  let met := spec.rules.flatMap fun (k, r) =>
    match r with
    | some rule => rule.mentioned.filter fun m =>
        !ruled.contains m && spec.rules.all fun (d, _) => d != m
    | none => [k]
  distinct ([spec.finish, spec.word] ++ met.filter (fun k => !spec.layout.contains k) ++ spec.layout)

private def inlineDraft (inlined : Nat → Option (List (Draft κ))) :
    Nat → List (Step κ) → List (Draft κ)
  | 0, steps => [⟨steps, 0⟩]
  | _, [] => [Draft.empty]
  | fuel + 1, step :: rest =>
    match inlined step.symbol with
    | none => (inlineDraft inlined fuel rest).map fun d => { d with steps := step :: d.steps }
    | some drafts => drafts.flatMap fun d =>
      let named := d.steps.map fun s =>
        { s with rename := step.rename.orElse fun _ => s.rename,
                 field := step.field.orElse fun _ => s.field }
      let closed := (Draft.mk named d.weight).closeWith fun s =>
        { s with level := s.level.orElse fun _ => step.level,
                 assoc := s.assoc.orElse fun _ => step.assoc }
      (inlineDraft inlined fuel (closed.steps ++ rest)).map fun e =>
        { e with weight := Draft.heavier d.weight e.weight }

private def firstSets (tokenCount symbolCount : Nat) (productions : Array (Production κ)) :
    Array TokenSet := Id.run do
  let mut sets := (Array.range symbolCount).map fun s => if s < tokenCount then TokenSet.single s else 0
  for _ in [0:symbolCount] do
    let mut changed := false
    for p in productions do
      if let some step := p.steps[0]? then
        let old := sets.getD p.head 0
        let new := old ||| sets.getD step.symbol 0
        if new != old then
          sets := sets.setIfInBounds p.head new
          changed := true
    if !changed then break
  return sets

private def leadingOf (tokenCount : Nat) (firsts : Array TokenSet) (productions : Array (Production κ))
    (ofHead : Array (Array Nat)) (construct : Nat) : Array Leading := Id.run do
  let mut found : Array (Option (TokenSet × Bool)) := (Array.replicate ofHead.size none)
  found := found.setIfInBounds construct (some (0, true))
  let mut pending := [construct]
  for _ in [0:64 * ofHead.size] do
    match pending with
    | [] => break
    | c :: rest =>
      pending := rest
      let (following, inherits) := (found.getD c none).getD (0, false)
      for i in ofHead.getD c #[] do
        if let some p := productions[i]? then
          if let some step := p.steps[0]? then
            if tokenCount ≤ step.symbol then
              let d := step.symbol - tokenCount
              let (more, through) : TokenSet × Bool := match p.steps[1]? with
                | some next => (firsts.getD next.symbol 0, false)
                | none => (following, inherits)
              match found.getD d none with
              | none =>
                found := found.setIfInBounds d (some (more, through))
                pending := d :: pending
              | some (old, was) =>
                if old ||| more != old || (through && !was) then
                  found := found.setIfInBounds d (some (old ||| more, was || through))
                  pending := d :: pending
  let mut result := #[]
  for h : d in [0:found.size] do
    if let some (following, inherits) := found[d] then
      result := result.push ⟨d, following, inherits⟩
  return result

def ofSpec (spec : Spec κ) : Grammar κ := Id.run do
  let tokens := tokensOf spec
  let ruled := spec.rules.filterMap fun (k, r) => r.map fun rule => (k, rule)
  let bodies := distinct (ruled.flatMap fun (_, r) => r.repeated)
  let kinds := (ruled.map (·.1)).toArray
  let base := tokens.size + kinds.size
  let numbers := (tokens ++ kinds).foldl (fun (m : Std.HashMap κ Nat) k =>
    if m.contains k then m else m.insert k m.size) ∅
  let symbol := fun k => numbers.getD k 0
  let repetition := fun r => base + (bodies.findIdx? (· == r)).getD 0
  let draftsOf := fun (r : Rule κ) => (distinct (r.drafts symbol repetition .plain true)).toList
  let inlinedDrafts := (ruled.filter fun (k, _) => spec.inlined.contains k).map fun (k, r) =>
    (symbol k, draftsOf r)
  let inlined := fun s => inlinedDrafts.lookup s
  let finished := fun (ds : List (Draft κ)) => distinct (ds.flatMap fun d =>
    (inlineDraft inlined 64 d.steps).map fun e => { e with weight := Draft.heavier d.weight e.weight })
  let mut productions : Array (Production κ) :=
    #[⟨base + bodies.size, #[Setting.plain.step tokens.size], 0⟩]
  for (k, r) in ruled do
    for d in finished (draftsOf r) do
      productions := productions.push ⟨symbol k, d.steps.toArray, d.weight⟩
  for h : i in [0:bodies.size] do
    let self := Setting.plain.step (base + i)
    productions := productions.push ⟨base + i, #[self, self], 0⟩
    for d in finished (draftsOf bodies[i]) do
      productions := productions.push ⟨base + i, d.steps.toArray, d.weight⟩
  let symbolCount := base + bodies.size + 1
  let mut ofHead : Array (Array Nat) := Array.replicate (symbolCount - tokens.size) #[]
  let mut beginning : Array (Array Nat) := Array.replicate symbolCount #[]
  for h : i in [0:productions.size] do
    let p := productions[i]
    ofHead := ofHead.modify (p.head - tokens.size) (·.push i)
    if let some step := p.steps[0]? then
      beginning := beginning.modify step.symbol (·.push i)
  let firsts := firstSets tokens.size symbolCount productions
  let leading := (Array.range ofHead.size).map (leadingOf tokens.size firsts productions ofHead)
  return {
    tokens
    constructs := kinds.map some ++ Array.replicate (bodies.size + 1) none
    hidden := (tokens ++ kinds).map spec.hidden ++ Array.replicate (bodies.size + 1) true
    productions, ofHead, beginning, firsts, leading
    word := symbol spec.word
    extras := spec.extras.foldl (fun s k => s ||| TokenSet.single (symbol k)) 0 }

end Grammar

end Scaffold
