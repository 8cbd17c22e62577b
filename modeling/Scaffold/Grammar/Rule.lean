namespace Scaffold.Grammar

inductive Assoc where
  | left
  | right
  deriving DecidableEq, Repr

inductive Rule (κ : Type) where
  | blank
  | part (kind : κ)
  | seq (first second : Rule κ)
  | alt (first second : Rule κ)
  | many (body : Rule κ)
  | level (n : Int) (assoc : Option Assoc) (body : Rule κ)
  | weight (n : Int) (body : Rule κ)
  | field (name : String) (body : Rule κ)
  | rename (kind : κ) (body : Rule κ)
  deriving BEq

namespace Rule

variable {κ : Type}

def inSequence : List (Rule κ) → Rule κ
  | [] => blank
  | [r] => r
  | r :: rs => seq r (inSequence rs)

def oneOf : List (Rule κ) → Rule κ
  | [] => blank
  | [r] => r
  | r :: rs => alt r (oneOf rs)

def optional (r : Rule κ) : Rule κ := alt r blank

def anyNumber (r : Rule κ) : Rule κ := optional (many r)

def separated (separator r : Rule κ) : Rule κ := seq r (anyNumber (seq separator r))

def repeated : Rule κ → List (Rule κ)
  | blank | part _ => []
  | seq a b | alt a b => a.repeated ++ b.repeated
  | many r => r.repeated ++ [r]
  | level _ _ r | weight _ r | field _ r | rename _ r => r.repeated

def mentioned : Rule κ → List κ
  | blank => []
  | part k => [k]
  | seq a b | alt a b => a.mentioned ++ b.mentioned
  | many r | level _ _ r | weight _ r | field _ r | rename _ r => r.mentioned

end Rule

/-- One symbol of a production, with the precedence that holds after it is read. -/
structure Step (κ : Type) where
  symbol : Nat
  level : Option Int
  assoc : Option Assoc
  rename : Option κ
  field : Option String
  deriving BEq

structure Setting (κ : Type) where
  level : Option Int
  assoc : Option Assoc
  rename : Option κ
  field : Option String

namespace Setting

variable {κ : Type}

def plain : Setting κ := ⟨none, none, none, none⟩

def step (s : Setting κ) (symbol : Nat) : Step κ := ⟨symbol, s.level, s.assoc, s.rename, s.field⟩

end Setting

structure Draft (κ : Type) where
  steps : List (Step κ)
  weight : Int
  deriving BEq

namespace Draft

variable {κ : Type}

def empty : Draft κ := ⟨[], 0⟩

/-- Of two weights the one further from zero counts, the earlier one on a tie. -/
def heavier (a b : Int) : Int := if b.natAbs > a.natAbs then b else a

def append (a b : Draft κ) : Draft κ := ⟨a.steps ++ b.steps, heavier a.weight b.weight⟩

def closeWith (close : Step κ → Step κ) (d : Draft κ) : Draft κ :=
  match d.steps.reverse with
  | [] => d
  | s :: before => { d with steps := (close s :: before).reverse }

end Draft

/-- The flat sequences that a rule allows. `symbol` numbers the kinds and `repetition` the bodies
of repetitions; `atEnd` tells whether nothing follows the rule in its production. A precedence level
reaches over the last step inside it only at the end of the production. -/
def Rule.drafts {κ : Type} (symbol : κ → Nat) (repetition : Rule κ → Nat) :
    Rule κ → Setting κ → Bool → List (Draft κ)
  | .blank, _, _ => [Draft.empty]
  | .part k, s, _ => [⟨[s.step (symbol k)], 0⟩]
  | .seq a b, s, atEnd =>
    (a.drafts symbol repetition s false).flatMap fun d =>
      (b.drafts symbol repetition s atEnd).map d.append
  | .alt a b, s, atEnd => a.drafts symbol repetition s atEnd ++ b.drafts symbol repetition s atEnd
  | .many r, s, _ => [⟨[s.step (repetition r)], 0⟩]
  | .level n assoc r, s, atEnd =>
    let inner := r.drafts symbol repetition
      { s with level := some n, assoc := assoc.orElse fun _ => s.assoc } atEnd
    if atEnd then inner
    else inner.map (Draft.closeWith fun p =>
      { p with level := s.level, assoc := if assoc.isSome then s.assoc else p.assoc })
  | .weight n r, s, atEnd =>
    (r.drafts symbol repetition s atEnd).map fun d => { d with weight := Draft.heavier n d.weight }
  | .field f r, s, atEnd => r.drafts symbol repetition { s with field := some f } atEnd
  | .rename k r, s, atEnd => r.drafts symbol repetition { s with rename := some k } atEnd

end Scaffold.Grammar
