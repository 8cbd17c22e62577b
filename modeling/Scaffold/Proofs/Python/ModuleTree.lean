import Scaffold.Python.Outline

namespace Scaffold.Syntax.Tree

variable {κ : Type} (i : Node κ) (cs : List (Tree κ))

@[simp] theorem info_node : (node i cs).info = i := rfl

@[simp] theorem kind_node : (node i cs).kind = i.kind := rfl

@[simp] theorem span_node : (node i cs).span = i.span := rfl

@[simp] theorem children_node : (node i cs).children = cs := rfl

end Scaffold.Syntax.Tree

namespace Scaffold.Python

namespace Kind

def isDefinition : Kind → Bool
  | functionDefinition | classDefinition => true
  | _ => false

def isCompound : Kind → Bool
  | ifStatement | forStatement | whileStatement | tryStatement | withStatement | matchStatement
  | functionDefinition | classDefinition | decoratedDefinition => true
  | _ => false

theorem isCompound_of_isDefinition {k : Kind} (h : k.isDefinition) : k.isCompound := by
  unfold isDefinition at h
  split at h
  · rfl
  · rfl
  · cases h

theorem isDefinition_eq_false {k : Kind} (h : k.isCompound = false) : k.isDefinition = false := by
  cases hk : k.isDefinition with
  | false => rfl
  | true => rw [isCompound_of_isDefinition hk] at h; cases h

def isClause : Kind → Bool
  | block | elifClause | elseClause | exceptClause | exceptGroupClause | finallyClause
  | caseClause => true
  | _ => false

end Kind

mutual

/-- Tokens, comments, expressions and simple statements: no statement stands below another one. -/
def isPlain : Tree → Bool
  | .node i cs => !i.kind.isCompound && !i.kind.isClause && arePlain cs

def arePlain : List Tree → Bool
  | [] => true
  | c :: cs => isPlain c && arePlain cs

end

/-- What can come next among the children of a node, plain nodes apart. -/
inductive Slot where
  | statements
  | cases
  | decorated
  | suite
  | matchSuite
  | conditional
  | branches
  | loop
  | otherwise
  | guarded
  | handlers
  | cleanup
  | closed
  deriving DecidableEq, Repr

namespace Slot

def next? : Slot → Kind → Option Slot
  | statements, k => if k.isCompound then some statements else none
  | cases, .caseClause => some cases
  | decorated, .functionDefinition | decorated, .classDefinition => some closed
  | suite, .block | matchSuite, .block => some closed
  | conditional, .block => some branches
  | branches, .elifClause => some branches
  | branches, .elseClause => some closed
  | loop, .block => some otherwise
  | otherwise, .elseClause => some closed
  | guarded, .block => some handlers
  | handlers, .exceptClause | handlers, .exceptGroupClause => some handlers
  | handlers, .elseClause => some cleanup
  | handlers, .finallyClause | cleanup, .finallyClause => some closed
  | _, _ => none

inductive Next : Slot → Kind → Slot → Prop
  | statement (k : Kind) (hk : k.isCompound) : Next statements k statements
  | case : Next cases .caseClause cases
  | definition (k : Kind) (hk : k.isDefinition) : Next decorated k closed
  | block : Next suite .block closed
  | matchBlock : Next matchSuite .block closed
  | consequence : Next conditional .block branches
  | elif : Next branches .elifClause branches
  | otherBranch : Next branches .elseClause closed
  | loopBody : Next loop .block otherwise
  | loopElse : Next otherwise .elseClause closed
  | guardedBody : Next guarded .block handlers
  | handler : Next handlers .exceptClause handlers
  | groupHandler : Next handlers .exceptGroupClause handlers
  | noException : Next handlers .elseClause cleanup
  | finalBlock : Next handlers .finallyClause closed
  | finalBlockLast : Next cleanup .finallyClause closed

theorem next_of_next? {s s' : Slot} {k : Kind} (h : s.next? k = some s') : Next s k s' := by
  unfold next? at h
  split at h
  case h_1 =>
    rw [Option.ite_none_right_eq_some, Option.some.injEq] at h
    obtain ⟨hk, rfl⟩ := h
    exact .statement _ hk
  all_goals cases h
  all_goals constructor
  all_goals rfl

def inside (s : Slot) : Kind → Slot
  | .ifStatement => conditional
  | .forStatement | .whileStatement => loop
  | .tryStatement => guarded
  | .matchStatement => matchSuite
  | .decoratedDefinition => decorated
  | .block => if s = matchSuite then cases else statements
  | _ => suite

end Slot

/-- Whether siblings stand as the grammar has it, with plain nodes anywhere between them. -/
def fits (s : Slot) : List Tree → Bool
  | [] => true
  | .node i cs :: ts =>
    if isPlain (.node i cs) then fits s ts
    else
      match s.next? i.kind with
      | some s' => fits (s.inside i.kind) cs && fits s' ts
      | none => false

def isModule (t : Tree) : Bool := t.kind = .module && fits .statements t.children

mutual

def inOrder : Tree → Bool
  | .node i cs => i.span.start ≤ i.span.stop && inOrderWithin i.span.start i.span.stop cs

def inOrderWithin (start stop : Nat) : List Tree → Bool
  | [] => start ≤ stop
  | c :: cs => start ≤ c.span.start && inOrder c && inOrderWithin c.span.stop stop cs

end

/-- Whether a child has the field by which it is found: a block is the body of a definition, and what
stands below decorators is their definition. -/
def fieldFits (k : Kind) (c : Tree) : Bool :=
  match k with
  | .functionDefinition | .classDefinition => (c.info.field = some "body") == (c.kind = .block)
  | .decoratedDefinition => (c.info.field = some "definition") == c.kind.isDefinition
  | _ => true

mutual

def isLabelled : Tree → Bool
  | .node i cs =>
    (!i.kind.isCompound || i.named) && (!i.kind.isDefinition || i.span.start < i.span.stop) &&
      cs.all (fieldFits i.kind) && areLabelled cs

def areLabelled : List Tree → Bool
  | [] => true
  | c :: cs => isLabelled c && areLabelled cs

end

/-- The syntax tree of a module: its nodes stand as the grammar has it and in the order of the text, and
have the fields that the grammar gives them. -/
structure ModuleTree where
  root : Tree
  shape : isModule root
  order : inOrder root
  labels : isLabelled root

namespace ModuleTree

private def sampleNode (k : Kind) (field : Option String) (row start stop : Nat)
    (cs : List Tree) : Tree :=
  .node ⟨k, k.isNamed, field, .parsed, false, ⟨start, stop, row⟩⟩ cs

private def sampleFunction (field : Option String) (row start name parens : Nat) : Tree :=
  sampleNode .functionDefinition field row start (parens + 5) [
    sampleNode (.symbol "def") none row start (start + 3) [],
    sampleNode .identifier (some "name") row name parens [],
    sampleNode .parameters (some "parameters") row parens (parens + 2) [
      sampleNode (.symbol "(") none row parens (parens + 1) [],
      sampleNode (.symbol ")") none row (parens + 1) (parens + 2) []],
    sampleNode (.symbol ":") none row (parens + 2) (parens + 3) [],
    sampleNode .block (some "body") row (parens + 4) (parens + 5) [
      sampleNode .expressionStatement none row (parens + 4) (parens + 5) [
        sampleNode .identifier none row (parens + 4) (parens + 5) []]]]

def sampleText : String :=
  "if a:\n class B:\n  @c\n  def _d(): e\nelif f:#\n def g(): h\ndef i(): j\n"

/-- A class with a decorated method in the first branch of a statement, a function in its second branch,
and a function after it. -/
def sample : ModuleTree where
  root := sampleNode .module none 0 0 67 [
    sampleNode .ifStatement none 0 0 55 [
      sampleNode (.symbol "if") none 0 0 2 [],
      sampleNode .identifier (some "condition") 0 3 4 [],
      sampleNode (.symbol ":") none 0 4 5 [],
      sampleNode .block (some "consequence") 1 7 34 [
        sampleNode .classDefinition none 1 7 34 [
          sampleNode (.symbol "class") none 1 7 12 [],
          sampleNode .identifier (some "name") 1 13 14 [],
          sampleNode (.symbol ":") none 1 14 15 [],
          sampleNode .block (some "body") 2 18 34 [
            sampleNode .decoratedDefinition none 2 18 34 [
              sampleNode .decorator none 2 18 20 [
                sampleNode (.symbol "@") none 2 18 19 [],
                sampleNode .identifier none 2 19 20 []],
              sampleFunction (some "definition") 3 23 27 29]]]],
      sampleNode .elifClause (some "alternative") 4 35 55 [
        sampleNode (.symbol "elif") none 4 35 39 [],
        sampleNode .identifier (some "condition") 4 40 41 [],
        sampleNode (.symbol ":") none 4 41 42 [],
        sampleNode .comment none 4 42 43 [],
        sampleNode .block (some "consequence") 5 45 55 [sampleFunction none 5 45 49 50]]],
    sampleFunction none 6 56 60 61]
  shape := by cbv
  order := by decide
  labels := by decide

end ModuleTree

theorem arePlain_iff {ts : List Tree} : arePlain ts ↔ ∀ t ∈ ts, isPlain t := by
  induction ts with
  | nil => simp [arePlain]
  | cons t ts ih => simp [arePlain, ih]

theorem areLabelled_iff {ts : List Tree} : areLabelled ts ↔ ∀ t ∈ ts, isLabelled t := by
  induction ts with
  | nil => simp [areLabelled]
  | cons t ts ih => simp [areLabelled, ih]

theorem isPlain_of_mem_children {t : Tree} (h : isPlain t) : ∀ c ∈ t.children, isPlain c := by
  cases t with
  | node i cs =>
      simp only [isPlain, Bool.and_eq_true] at h
      exact arePlain_iff.mp h.2

theorem isLabelled_of_mem_children {t : Tree} (h : isLabelled t) : ∀ c ∈ t.children, isLabelled c := by
  cases t with
  | node i cs =>
      simp only [isLabelled, Bool.and_eq_true] at h
      exact areLabelled_iff.mp h.2

theorem named_of_isLabelled {t : Tree} (h : isLabelled t) (hk : t.kind.isCompound) : t.info.named := by
  cases t with
  | node i cs =>
      simp only [isLabelled, Bool.and_eq_true] at h
      rw [Syntax.Tree.kind_node] at hk
      simpa [hk] using h.1.1.1

theorem start_lt_stop_of_isLabelled {t : Tree} (h : isLabelled t) (hk : t.kind.isDefinition) :
    t.span.start < t.span.stop := by
  cases t with
  | node i cs =>
      simp only [isLabelled, Bool.and_eq_true] at h
      rw [Syntax.Tree.kind_node] at hk
      simpa [hk] using h.1.1.2

theorem fieldFits_of_isLabelled {t : Tree} (h : isLabelled t) :
    ∀ c ∈ t.children, fieldFits t.kind c := by
  cases t with
  | node i cs =>
      simp only [isLabelled, Bool.and_eq_true, List.all_eq_true] at h
      exact h.1.2

def IsGrown (t : Tree) : Prop := isPlain t ∨ ∃ s : Slot, fits (s.inside t.kind) t.children

theorem isGrown_of_fits {s : Slot} {ts : List Tree} (h : fits s ts) : ∀ t ∈ ts, IsGrown t := by
  fun_induction fits s ts with
  | case1 => simp
  | case2 s i cs ts hp ih => exact List.forall_mem_cons.mpr ⟨.inl hp, ih h⟩
  | case3 s i cs ts hp s' hs ihcs ihts =>
      simp only [Bool.and_eq_true] at h
      exact List.forall_mem_cons.mpr ⟨.inr ⟨s, h.1⟩, ihts h.2⟩
  | case4 => cases h

theorem IsGrown.of_mem_children {t : Tree} (h : IsGrown t) : ∀ c ∈ t.children, IsGrown c := by
  intro c hc
  rcases h with hp | ⟨s, hf⟩
  · exact .inl (isPlain_of_mem_children hp c hc)
  · exact isGrown_of_fits hf c hc

theorem isPlain_of_fits_closed {ts : List Tree} (h : fits .closed ts) : ∀ t ∈ ts, isPlain t := by
  induction ts with
  | nil => simp
  | cons t ts ih =>
      cases t with
      | node i cs =>
          rw [fits] at h
          split at h
          · exact List.forall_mem_cons.mpr ⟨‹_›, ih h⟩
          · cases h

/-- Where one node closes a slot, there is no second one beside it that is not plain. -/
theorem eq_of_fits {s : Slot} {ts : List Tree} (hs : ∀ k s', Slot.Next s k s' → s' = .closed)
    (h : fits s ts) {c d : Tree} (hc : c ∈ ts) (hd : d ∈ ts) (hpc : ¬ isPlain c) (hpd : ¬ isPlain d) :
    c = d := by
  fun_induction fits s ts with
  | case1 => cases hc
  | case2 s i cs ts hp ih =>
      refine ih hs h ?_ ?_
      · exact (List.mem_cons.mp hc).resolve_left fun he => hpc (he ▸ hp)
      · exact (List.mem_cons.mp hd).resolve_left fun he => hpd (he ▸ hp)
  | case3 s i cs ts hp s' hn ihcs ihts =>
      simp only [Bool.and_eq_true] at h
      rw [hs _ _ (Slot.next_of_next? hn)] at h
      have hplain := isPlain_of_fits_closed h.2
      rw [(List.mem_cons.mp hc).resolve_right fun hc => hpc (hplain c hc),
        (List.mem_cons.mp hd).resolve_right fun hd => hpd (hplain d hd)]
  | case4 => cases h

end Scaffold.Python
