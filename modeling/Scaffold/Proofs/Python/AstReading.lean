import Scaffold.Proofs.Python.Ast

namespace Scaffold.Python

namespace Ast

mutual

/-- What stands for a node among statements. Tokens, comments and decorators are no statements, and
decorators leave only the definition below them. -/
def statement : Tree → List Ast
  | .node i cs =>
    match i.kind with
    | .comment | .lineContinuation | .symbol _ | .decorator => []
    | .decoratedDefinition => statements cs
    | .functionDefinition | .classDefinition | .withStatement | .matchStatement | .caseClause =>
      [node (.node i cs) (body cs)]
    | .ifStatement | .forStatement | .whileStatement => [node (.node i cs) (body cs ++ orelse cs)]
    | .tryStatement =>
      [node (.node i cs) (body cs ++ (handlers cs ++ (orelse cs ++ finalbody cs)))]
    | _ => [node (.node i cs) []]

def statements : List Tree → List Ast
  | [] => []
  | t :: ts => statement t ++ statements ts

def body : List Tree → List Ast
  | [] => []
  | .node i cs :: ts => if i.kind = .block then statements cs ++ body ts else body ts

/-- What is done if the condition of a statement fails. An `elif` is a statement of its own that holds
all branches after it, and the statements of an `else` belong to the branch before it. -/
def orelse : List Tree → List Ast
  | [] => []
  | .node i cs :: ts =>
    match i.kind with
    | .elifClause => [node (.node i cs) (body cs ++ orelse ts)]
    | .elseClause => body cs ++ orelse ts
    | _ => orelse ts

def handlers : List Tree → List Ast
  | [] => []
  | .node i cs :: ts =>
    match i.kind with
    | .exceptClause | .exceptGroupClause => node (.node i cs) (body cs) :: handlers ts
    | _ => handlers ts

def finalbody : List Tree → List Ast
  | [] => []
  | .node i cs :: ts => if i.kind = .finallyClause then body cs ++ finalbody ts else finalbody ts

end

def ofModule (t : Tree) : Ast := node t (statements t.children)

end Ast

mutual

def nested (n elifsBefore : Nat) : Tree → List (Nat × Tree)
  | .node i cs =>
    let here : Place := ⟨.node i cs, elifsBefore⟩
    (if i.kind.isDefinition then [(n + here.nesting, .node i cs)] else []) ++
      nestedAmong (n + here.nesting) 0 cs

def nestedAmong (n elifsBefore : Nat) : List Tree → List (Nat × Tree)
  | [] => []
  | c :: cs =>
    nested n elifsBefore c ++
      nestedAmong n (if c.kind = .elifClause then elifsBefore + 1 else elifsBefore) cs

end

mutual

theorem nested_plain (n e : Nat) : ∀ t, isPlain t → nested n e t = []
  | .node i cs, h => by
      simp only [isPlain, Bool.and_eq_true, Bool.not_eq_true'] at h
      simp [nested, Kind.isDefinition_eq_false h.1.1, nestedAmong_plain _ _ cs h.2]

theorem nestedAmong_plain (n e : Nat) : ∀ ts, arePlain ts → nestedAmong n e ts = []
  | [], _ => rfl
  | t :: ts, h => by
      simp only [arePlain, Bool.and_eq_true] at h
      rw [nestedAmong, nested_plain n e t h.1, nestedAmong_plain n _ ts h.2, List.append_nil]

end

namespace Ast

structure Passes (read : List Tree → List Ast) (kinds : List Kind) : Prop where
  nil : read [] = []
  cons : ∀ i cs ts, i.kind ∉ kinds → read (.node i cs :: ts) = read ts

variable {read : List Tree → List Ast} {kinds : List Kind}

theorem passes_body : Passes body [.block] := by
  refine ⟨rfl, fun i cs ts hk => ?_⟩
  rw [body, if_neg (by simpa using hk)]

theorem passes_orelse : Passes orelse [.elifClause, .elseClause] := by
  refine ⟨rfl, fun i cs ts hk => ?_⟩
  rw [orelse]
  split <;> simp_all

theorem passes_handlers : Passes handlers [.exceptClause, .exceptGroupClause] := by
  refine ⟨rfl, fun i cs ts hk => ?_⟩
  rw [handlers]
  split <;> simp_all

theorem passes_finalbody : Passes finalbody [.finallyClause] := by
  refine ⟨rfl, fun i cs ts hk => ?_⟩
  rw [finalbody, if_neg (by simpa using hk)]

namespace Passes

theorem cons_plain (h : Passes read kinds) {i : Syntax.Node Kind} (cs ts : List Tree) (hi : i.kind.isClause = false)
    (hkinds : ∀ k ∈ kinds, k.isClause) : read (.node i cs :: ts) = read ts := by
  refine h.cons i cs ts fun hmem => ?_
  rw [hkinds _ hmem] at hi
  cases hi

theorem eq_nil (h : Passes read kinds) (ts : List Tree) (hts : ∀ k ∈ kinds, ∀ t ∈ ts, t.kind ≠ k) : read ts = [] := by
  induction ts with
  | nil => exact h.nil
  | cons t ts ih =>
      cases t with
      | node i cs =>
          rw [h.cons i cs ts fun hmem => hts _ hmem _ (.head _) rfl]
          exact ih fun k hk t ht => hts k hk t (.tail _ ht)

end Passes

end Ast

open Ast in
def Slot.reading : Slot → List Tree → List Ast
  | statements, ts | cases, ts | decorated, ts => Ast.statements ts
  | suite, ts | matchSuite, ts => body ts
  | conditional, ts | loop, ts => body ts ++ orelse ts
  | branches, ts | otherwise, ts => orelse ts
  | guarded, ts => body ts ++ (Ast.handlers ts ++ (orelse ts ++ finalbody ts))
  | handlers, ts => Ast.handlers ts ++ (orelse ts ++ finalbody ts)
  | cleanup, ts => finalbody ts
  | closed, _ => []

namespace Slot

open Ast

theorem reading_plain (s : Slot) (n : Nat) (t : Tree) (ts : List Tree) (h : isPlain t) :
    levelsAmong n (s.reading (t :: ts)) = levelsAmong n (s.reading ts) := by
  cases t with
  | node i cs =>
      simp only [isPlain, Bool.and_eq_true, Bool.not_eq_true'] at h
      obtain ⟨⟨hc, hl⟩, -⟩ := h
      have hs : levelsAmong n (statement (.node i cs)) = [] := by
        have hd := Kind.isDefinition_eq_false hc
        rw [statement]
        split <;> simp_all [levelsAmong, Ast.levels, Kind.isCompound, Kind.isClause]
      have hb := passes_body.cons_plain cs ts hl (by decide)
      have ho := passes_orelse.cons_plain cs ts hl (by decide)
      have hh := passes_handlers.cons_plain cs ts hl (by decide)
      have hf := passes_finalbody.cons_plain cs ts hl (by decide)
      cases s <;> simp [reading, Ast.statements, levelsAmong_append, hs, hb, ho, hh, hf]

theorem reading_allPlain (s : Slot) (n : Nat) (ts : List Tree) (h : ∀ t ∈ ts, isPlain t) :
    levelsAmong n (s.reading ts) = [] := by
  induction ts with
  | nil => cases s <;> rfl
  | cons t ts ih =>
      rw [List.forall_mem_cons] at h
      rw [reading_plain s n t ts h.1, ih h.2]

def mayHold : Slot → Kind → Bool
  | statements, k | decorated, k => k.isCompound
  | cases, k => k = .caseClause
  | suite, k | matchSuite, k => k = .block
  | conditional, k => k = .block || k = .elifClause || k = .elseClause
  | branches, k => k = .elifClause || k = .elseClause
  | loop, k => k = .block || k = .elseClause
  | otherwise, k => k = .elseClause
  | guarded, k =>
    k = .block || k = .exceptClause || k = .exceptGroupClause || k = .elseClause || k = .finallyClause
  | handlers, k =>
    k = .exceptClause || k = .exceptGroupClause || k = .elseClause || k = .finallyClause
  | cleanup, k => k = .finallyClause
  | closed, _ => false

theorem Next.mayHold {s s' : Slot} {k : Kind} (h : Next s k s') : s.mayHold k := by
  cases h with
  | statement k hk => exact hk
  | definition k hk => exact Kind.isCompound_of_isDefinition hk
  | _ => rfl

theorem Next.mayHold_mono {s s' : Slot} {k : Kind} (h : Next s k s') (l : Kind)
    (hl : s'.mayHold l) : s.mayHold l := by
  cases h with
  | statement | case | elif | handler | groupHandler => exact hl
  | consequence | loopBody | guardedBody | noException => grind [Slot.mayHold]
  | _ => cases hl

theorem mayHold_of_fits {s : Slot} {ts : List Tree} (h : fits s ts) :
    ∀ t ∈ ts, isPlain t ∨ s.mayHold t.kind := by
  fun_induction fits s ts with
  | case1 => simp
  | case2 s i cs ts hp ih =>
      intro t ht
      rcases List.mem_cons.mp ht with rfl | ht
      · exact .inl hp
      · exact ih h t ht
  | case3 s i cs ts hp s' hs ihcs ihts =>
      simp only [Bool.and_eq_true] at h
      intro t ht
      rcases List.mem_cons.mp ht with rfl | ht
      · exact .inr (next_of_next? hs).mayHold
      · exact (ihts h.2 t ht).imp_right ((next_of_next? hs).mayHold_mono t.kind)
  | case4 => cases h

theorem kind_ne_of_fits {s : Slot} {ts : List Tree} (h : fits s ts) (k : Kind) (hk : k.isClause)
    (hs : s.mayHold k = false) : ∀ t ∈ ts, t.kind ≠ k := by
  rintro t ht rfl
  rcases mayHold_of_fits h t ht with hp | hm
  · cases t with
    | node i cs =>
        simp only [isPlain, Bool.and_eq_true, Bool.not_eq_true'] at hp
        rw [Syntax.Tree.kind_node, hp.1.2] at hk
        cases hk
  · rw [hs] at hm
    cases hm

end Slot

theorem nested_statement (s : Slot) (n e : Nat) (i : Syntax.Node Kind) (cs : List Tree)
    (hk : i.kind.isCompound)
    (hcs : ∀ m, nestedAmong m 0 cs = Ast.levelsAmong (m + 1) ((s.inside i.kind).reading cs)) :
    nested n e (.node i cs) = Ast.levelsAmong (n + 1) (Ast.statement (.node i cs)) := by
  unfold Kind.isCompound at hk
  split at hk <;> rename_i hi <;>
    simp_all [nested, Place.nesting, Place.kind, Ast.statement,
      Ast.levelsAmong, Ast.levels, Kind.isDefinition, Slot.inside, Slot.reading]

/-- An `elif` can have come before only among branches, or where nothing else can come. -/
def Slot.admits (s : Slot) (elifsBefore : Nat) : Prop := s = branches ∨ s = closed ∨ elifsBefore = 0

theorem Slot.Next.admits {s s' : Slot} {k : Kind} (h : Next s k s') {e : Nat} (he : s.admits e) :
    s'.admits (if k = .elifClause then e + 1 else e) := by
  cases h with
  | statement k hk =>
      have hne : k ≠ .elifClause := by rintro rfl; cases hk
      rwa [if_neg hne]
  | elif | consequence => exact .inl rfl
  | case | loopBody | guardedBody | handler | groupHandler | noException =>
      simpa [Slot.admits] using he
  | _ => exact .inr (.inl rfl)

theorem nested_clause (s : Slot) (n e m : Nat) (i : Syntax.Node Kind) (cs : List Tree)
    (hk : i.kind.isClause) (hm : Place.nesting ⟨.node i cs, e⟩ = m)
    (hcs : ∀ m, nestedAmong m 0 cs = Ast.levelsAmong (m + 1) ((s.inside i.kind).reading cs)) :
    nested n e (.node i cs) = Ast.levelsAmong (n + m + 1) ((s.inside i.kind).reading cs) := by
  have hd : ¬ i.kind.isDefinition := by
    intro hd
    unfold Kind.isClause at hk
    split at hk <;> simp_all [Kind.isDefinition]
  rw [nested, if_neg hd, List.nil_append, hm, hcs]

theorem Slot.Next.levels_reading {s s' : Slot} {k : Kind} (h : Next s k s') (n e : Nat)
    (i : Syntax.Node Kind) (cs ts : List Tree) (hk : i.kind = k) (hts : fits s' ts) (he : s.admits e)
    (hcs : ∀ m, nestedAmong m 0 cs = Ast.levelsAmong (m + 1) ((s.inside k).reading cs)) :
    Ast.levelsAmong (n + e + 1) (s.reading (.node i cs :: ts)) =
      nested n e (.node i cs) ++
        Ast.levelsAmong (n + (if k = .elifClause then e + 1 else e) + 1) (s'.reading ts) := by
  have hnil {read : List Tree → List Ast} {kinds : List Kind} (hread : Ast.Passes read kinds)
      (hkinds : ∀ k ∈ kinds, k.isClause ∧ s'.mayHold k = false) : read ts = [] :=
    hread.eq_nil ts fun k hk => Slot.kind_ne_of_fits hts k (hkinds k hk).1 (hkinds k hk).2
  have hclause (m : Nat) (hc : k.isClause) (hm : Place.nesting ⟨.node i cs, e⟩ = m) :
      nested n e (.node i cs) = Ast.levelsAmong (n + m + 1) ((s.inside k).reading cs) := by
    subst hk
    exact nested_clause s n e m i cs hc hm hcs
  cases h with
  | statement k hk' =>
      have helif : k ≠ .elifClause := by rintro rfl; cases hk'
      obtain rfl : e = 0 := by simpa [Slot.admits] using he
      subst hk
      rw [Slot.reading, Slot.reading, Ast.statements, Ast.levelsAmong_append, if_neg helif,
        nested_statement statements n 0 i cs hk' hcs]
  | definition k hk' =>
      have hp : ∀ t ∈ ts, isPlain t := fun t ht => (Slot.mayHold_of_fits hts t ht).resolve_right nofun
      obtain rfl : e = 0 := by simpa [Slot.admits] using he
      subst hk
      rw [Slot.reading, Slot.reading, Ast.statements, Ast.levelsAmong_append,
        nested_statement decorated n 0 i cs (Kind.isCompound_of_isDefinition hk') hcs]
      exact congrArg _ (Slot.reading_allPlain statements (n + 1) ts hp)
  | case =>
      obtain rfl : e = 0 := by simpa [Slot.admits] using he
      rw [hclause 1 rfl (by simp [Place.nesting, Place.kind, hk])]
      simp [Slot.reading, Slot.inside, Ast.statements, Ast.statement, Ast.levelsAmong, Ast.levels,
        Kind.isDefinition, hk]
  | block | matchBlock =>
      obtain rfl : e = 0 := by simpa [Slot.admits] using he
      have hb := hnil Ast.passes_body (by decide)
      rw [hclause 0 rfl (by simp [Place.nesting, Place.kind, hk])]
      simp [Slot.reading, Slot.inside, Ast.body, Ast.levelsAmong, hk, hb]
  | consequence | loopBody | guardedBody =>
      obtain rfl : e = 0 := by simpa [Slot.admits] using he
      have hb := hnil Ast.passes_body (by decide)
      rw [hclause 0 rfl (by simp [Place.nesting, Place.kind, hk])]
      simp [Slot.reading, Slot.inside, Ast.body, Ast.orelse, Ast.handlers, Ast.finalbody,
        Ast.levelsAmong_append, hk, hb]
  | elif =>
      rw [hclause (e + 1) rfl (by simp [Place.nesting, Place.kind, hk])]
      simp [Slot.reading, Slot.inside, Ast.orelse, Ast.levelsAmong, Ast.levels, Ast.levelsAmong_append,
        Kind.isDefinition, hk, Nat.add_assoc]
  | otherBranch | loopElse =>
      have ho := hnil Ast.passes_orelse (by decide)
      rw [hclause e rfl (by simp [Place.nesting, Place.kind, hk])]
      simp [Slot.reading, Slot.inside, Ast.orelse, Ast.levelsAmong, hk, ho]
  | handler | groupHandler =>
      obtain rfl : e = 0 := by simpa [Slot.admits] using he
      rw [hclause 1 rfl (by simp [Place.nesting, Place.kind, hk])]
      simp [Slot.reading, Slot.inside, Ast.handlers, Ast.orelse, Ast.finalbody, Ast.levelsAmong,
        Ast.levels, Ast.levelsAmong_append, Kind.isDefinition, hk]
  | noException =>
      have hh := hnil Ast.passes_handlers (by decide)
      have ho := hnil Ast.passes_orelse (by decide)
      rw [hclause e rfl (by simp [Place.nesting, Place.kind, hk])]
      simp [Slot.reading, Slot.inside, Ast.handlers, Ast.orelse, Ast.finalbody, Ast.levelsAmong_append,
        hk, hh, ho]
  | finalBlock | finalBlockLast =>
      obtain rfl : e = 0 := by simpa [Slot.admits] using he
      have hh := hnil Ast.passes_handlers (by decide)
      have ho := hnil Ast.passes_orelse (by decide)
      have hf := hnil Ast.passes_finalbody (by decide)
      rw [hclause 0 rfl (by simp [Place.nesting, Place.kind, hk])]
      simp [Slot.reading, Slot.inside, Ast.handlers, Ast.orelse, Ast.finalbody, Ast.levelsAmong, hk, hh,
        ho, hf]

theorem nestedAmong_eq (s : Slot) (ts : List Tree) (h : fits s ts) (n e : Nat)
    (he : s.admits e) :
    nestedAmong n e ts = Ast.levelsAmong (n + e + 1) (s.reading ts) := by
  fun_induction fits s ts generalizing n e with
  | case1 s => cases s <;> rfl
  | case2 s i cs ts hp ih =>
      have hk : i.kind ≠ .elifClause := by
        intro hk
        simp [isPlain, hk, Kind.isClause] at hp
      rw [nestedAmong, nested_plain _ _ _ hp, List.nil_append, Syntax.Tree.kind_node, if_neg hk,
        Slot.reading_plain s _ _ _ hp]
      exact ih h n e he
  | case3 s i cs ts hp s' hs ihcs ihts =>
      simp only [Bool.and_eq_true] at h
      have hn := Slot.next_of_next? hs
      rw [hn.levels_reading n e i cs ts rfl h.2 he fun m => ihcs h.1 m 0 (.inr (.inr rfl)), nestedAmong,
        Syntax.Tree.kind_node]
      congr 1
      exact ihts h.2 n _ (hn.admits he)
  | case4 => cases h

end Scaffold.Python
