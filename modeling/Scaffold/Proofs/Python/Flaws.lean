import Scaffold.Python.Outline

namespace Scaffold

namespace Syntax.Tree

variable {κ : Type}

mutual

/-- The nodes of a tree, each before those below it. -/
def preorder : Tree κ → List (Tree κ)
  | node i cs => node i cs :: preorderAmong cs

def preorderAmong : List (Tree κ) → List (Tree κ)
  | [] => []
  | c :: cs => preorder c ++ preorderAmong cs

end

theorem self_mem_preorder (t : Tree κ) : t ∈ t.preorder := by
  cases t with
  | node i cs =>
      rw [preorder]
      exact .head _

/-- Whether the flag of every node tells if the node or one below it is a flaw. -/
def FlagsFlaws (t : Tree κ) : Prop :=
  ∀ s ∈ t.preorder, (s.info.flawed = true ↔ ∃ f ∈ s.preorder, f.isFlaw = true)

instance (t : Tree κ) : Decidable t.FlagsFlaws := inferInstanceAs (Decidable (∀ s ∈ t.preorder, _))

theorem FlagsFlaws.flawed_iff {t : Tree κ} (h : t.FlagsFlaws) :
    t.info.flawed = true ↔ ∃ f ∈ t.preorder, f.isFlaw = true :=
  h t t.self_mem_preorder

theorem FlagsFlaws.find?_eq_none {t : Tree κ} (h : t.FlagsFlaws) (hflag : t.info.flawed = false) :
    t.preorder.find? isFlaw = none := by
  rw [List.find?_eq_none]
  intro f hf hflaw
  have hflawed := h.flawed_iff.mpr ⟨f, hf, hflaw⟩
  simp [hflag] at hflawed

mutual

/-- What is left out of the search has no flaw in it. -/
theorem firstFlaw?_eq_find? : ∀ t : Tree κ, t.FlagsFlaws → t.firstFlaw? = t.preorder.find? isFlaw
  | node i cs, h => by
      rw [firstFlaw?, preorder, List.find?_cons]
      by_cases hflaw : (i.origin != .parsed) = true
      · have hroot : isFlaw (node i cs) = true := hflaw
        rw [if_pos hflaw, hroot]
      · have hroot : isFlaw (node i cs) = false := Bool.eq_false_iff.mpr hflaw
        rw [if_neg hflaw, hroot]
        refine firstFlawAmong?_eq_find? cs fun s hs => h s ?_
        rw [preorder]
        exact .tail _ hs

theorem firstFlawAmong?_eq_find? : ∀ cs : List (Tree κ),
    (∀ s ∈ preorderAmong cs, (s.info.flawed = true ↔ ∃ f ∈ s.preorder, f.isFlaw = true)) →
      firstFlawAmong? cs = (preorderAmong cs).find? isFlaw
  | [], _ => by rw [firstFlawAmong?, preorderAmong, List.find?_nil]
  | c :: cs, h => by
      rw [preorderAmong, List.forall_mem_append] at h
      have hc : c.FlagsFlaws := h.1
      have hfirst : (if c.info.flawed then firstFlaw? c else none) = c.preorder.find? isFlaw := by
        cases hflag : c.info.flawed with
        | true => exact firstFlaw?_eq_find? c hc
        | false => exact (hc.find?_eq_none hflag).symm
      rw [firstFlawAmong?, preorderAmong, List.find?_append, hfirst, firstFlawAmong?_eq_find? cs h.2]
      cases c.preorder.find? isFlaw <;> rfl

end

end Syntax.Tree

namespace Python

variable {t : Tree}

theorem outlineOfTree_eq (h : t.FlagsFlaws) (src : Source) (path : String) :
    outlineOfTree src path t =
      match t.preorder.find? Syntax.Tree.isFlaw with
      | some f => .error (.ofFlaw (some f))
      | none => .ok (outlineOf src path t) := by
  rw [outlineOfTree, Syntax.Tree.firstFlaw?_eq_find? t h]
  cases hflaw : t.preorder.find? Syntax.Tree.isFlaw with
  | some f =>
      have hflag := h.flawed_iff.mpr ⟨f, List.mem_of_find?_eq_some hflaw, List.find?_some hflaw⟩
      rw [if_pos hflag]
  | none =>
      have hflag : ¬ t.info.flawed = true := by
        rw [h.flawed_iff]
        rintro ⟨f, hf, hisflaw⟩
        exact List.find?_eq_none.mp hflaw f hf hisflaw
      rw [if_neg hflag]

/-- The search finds the first missing node or error of the whole tree. A tree without any has an outline, and any
other one has the message of the first one instead, with its line. -/
theorem outlineOfParse_first_flaw (h : t.FlagsFlaws) (src : Source) (path : String) :
    t.firstFlaw? = t.preorder.find? (fun f => f.info.origin ≠ .parsed) ∧
    (t.firstFlaw? = none ↔ ∀ f ∈ t.preorder, f.info.origin = .parsed) ∧
    ((∃ e, outlineOfParse src path (some t) = .error e) ↔ ∃ f ∈ t.preorder, f.info.origin ≠ .parsed) ∧
    (∀ f, t.firstFlaw? = some f → outlineOfParse src path (some t) =
      .error (if f.info.origin = .missing then .missing f.kind.label f.line else .invalid f.line)) ∧
    outlineOfParse src path (some t) ≠ .error .invalidSomewhere ∧
    ((∀ f ∈ t.preorder, f.info.origin = .parsed) →
      outlineOfParse src path (some t) = .ok (outlineOf src path t)) := by
  have hfirst : t.firstFlaw? = t.preorder.find? Syntax.Tree.isFlaw := Syntax.Tree.firstFlaw?_eq_find? t h
  have hflaw (f : Tree) : f.isFlaw = true ↔ f.info.origin ≠ .parsed := bne_iff_ne
  have hsearch : t.preorder.find? Syntax.Tree.isFlaw = t.preorder.find? (fun f => f.info.origin ≠ .parsed) := by
    refine congrArg (fun p => t.preorder.find? p) (funext fun f => ?_)
    rw [Bool.eq_iff_iff, hflaw, decide_eq_true_eq]
  have hnone : t.firstFlaw? = none ↔ ∀ f ∈ t.preorder, f.info.origin = .parsed := by
    rw [hfirst, List.find?_eq_none]
    simp only [hflaw, ne_eq, Decidable.not_not]
  have hparse : outlineOfParse src path (some t) = outlineOfTree src path t := rfl
  rw [outlineOfTree_eq h, ← hfirst] at hparse
  refine ⟨hfirst.trans hsearch, hnone, ?_, ?_, ?_, ?_⟩
  · rw [hparse]
    cases hfound : t.firstFlaw? with
    | none => simpa using hnone.mp hfound
    | some f =>
        rw [hfirst] at hfound
        simp only [Except.error.injEq, exists_eq', true_iff]
        exact ⟨f, List.mem_of_find?_eq_some hfound, (hflaw f).mp (List.find?_some hfound)⟩
  · intro f hfound
    rw [hparse, hfound]
    rfl
  · rw [hparse]
    cases hfound : t.firstFlaw? with
    | none => simp
    | some f => by_cases hmissing : f.info.origin = .missing <;> simp [SyntaxError.ofFlaw, hmissing]
  · intro hparsed
    rw [hparse, hnone.mpr hparsed]

namespace Flaws

def flagged (k : Kind) (origin : Syntax.Origin) (row : Nat) (cs : List Tree) : Tree :=
  .node ⟨k, k.isNamed, none, origin, true, ⟨0, 0, row⟩⟩ cs

def unflagged (k : Kind) (row : Nat) (cs : List Tree) : Tree :=
  .node ⟨k, k.isNamed, none, .parsed, false, ⟨0, 0, row⟩⟩ cs

def sampleTree : Tree :=
  flagged .module .parsed 0 [
    unflagged .expressionStatement 0 [unflagged .identifier 0 []],
    flagged .functionDefinition .parsed 1 [
      unflagged (.symbol "def") 1 [],
      unflagged .identifier 1 [],
      flagged .parameters .parsed 1 [unflagged (.symbol "(") 1 [], flagged (.symbol ")") .missing 1 []],
      unflagged (.symbol ":") 1 []],
    flagged .error .error 3 [unflagged .identifier 3 []]]

end Flaws

open Flaws in
/-- The search passes by the statement and goes down to the missing bracket. -/
theorem outlineOfParse_unclosedParameters :
    sampleTree.FlagsFlaws ∧ sampleTree.firstFlaw? = some (flagged (.symbol ")") .missing 1 []) ∧
      outlineOfParse (.ofString "") "mod.py" (some sampleTree) = .error (.missing ")" 2) := by
  have hflags : sampleTree.FlagsFlaws := by decide
  have hfirst : sampleTree.firstFlaw? = some (flagged (.symbol ")") .missing 1 []) := rfl
  exact ⟨hflags, hfirst, (outlineOfParse_first_flaw hflags _ _).2.2.2.1 _ hfirst⟩

end Python

end Scaffold
