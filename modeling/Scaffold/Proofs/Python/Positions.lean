import Scaffold.Proofs.Python.ModuleTree

namespace Scaffold.Python

theorem Position.isDefinition_eq (p : Position) : p.isDefinition = p.kind.isDefinition := by
  unfold isDefinition Kind.isDefinition
  split <;> simp_all

theorem self_mem_positions (around : List Place) (e : Nat) (t : Tree) :
    (⟨⟨t, e⟩, around⟩ : Position) ∈ positions around e t := by
  cases t with
  | node i cs => exact List.mem_cons_self

theorem exists_mem_positionsAmong (around : List Place) (e : Nat) {c : Tree} {cs : List Tree}
    (h : c ∈ cs) :
    ∃ e', (⟨⟨c, e'⟩, around⟩ : Position) ∈ positionsAmong around e cs := by
  induction cs generalizing e with
  | nil => cases h
  | cons d cs ih =>
      rw [positionsAmong]
      rcases List.mem_cons.mp h with rfl | h
      · exact ⟨e, List.mem_append_left _ (self_mem_positions around e c)⟩
      · obtain ⟨e', he⟩ := ih (if d.kind = .elifClause then e + 1 else e) h
        exact ⟨e', List.mem_append_right _ he⟩

mutual

theorem exists_child_positions (around : List Place) (e : Nat) : ∀ t, ∀ p ∈ positions around e t,
    ∀ c ∈ p.tree.children, ∃ e', (⟨⟨c, e'⟩, p.place :: p.around⟩ : Position) ∈ positions around e t
  | .node i cs, p, hp, c, hc => by
      rw [positions] at hp ⊢
      rcases List.mem_cons.mp hp with rfl | hp
      · obtain ⟨e', he⟩ := exists_mem_positionsAmong (⟨.node i cs, e⟩ :: around) 0 hc
        exact ⟨e', List.mem_cons_of_mem _ he⟩
      · obtain ⟨e', he⟩ := exists_child_positionsAmong (⟨.node i cs, e⟩ :: around) 0 cs p hp c hc
        exact ⟨e', List.mem_cons_of_mem _ he⟩

theorem exists_child_positionsAmong (around : List Place) (e : Nat) : ∀ ts,
    ∀ p ∈ positionsAmong around e ts, ∀ c ∈ p.tree.children,
      ∃ e', (⟨⟨c, e'⟩, p.place :: p.around⟩ : Position) ∈ positionsAmong around e ts
  | [], p, hp, c, hc => by cases hp
  | t :: ts, p, hp, c, hc => by
      rw [positionsAmong, List.mem_append] at hp
      rw [positionsAmong]
      rcases hp with hp | hp
      · obtain ⟨e', he⟩ := exists_child_positions around e t p hp c hc
        exact ⟨e', List.mem_append_left _ he⟩
      · obtain ⟨e', he⟩ := exists_child_positionsAmong around _ ts p hp c hc
        exact ⟨e', List.mem_append_right _ he⟩

end

mutual

theorem parent_positions (around : List Place) (e : Nat) : ∀ t, ∀ p ∈ positions around e t,
    p = ⟨⟨t, e⟩, around⟩ ∨
      ∃ q ∈ positions around e t, p.around = q.place :: q.around ∧ p.tree ∈ q.tree.children
  | .node i cs, p, hp => by
      rw [positions] at hp ⊢
      rcases List.mem_cons.mp hp with rfl | hp
      · exact .inl rfl
      · right
        rcases parent_positionsAmong (⟨.node i cs, e⟩ :: around) 0 cs p hp with ⟨ha, hc⟩ | ⟨q, hq, h⟩
        · exact ⟨_, List.mem_cons_self, ha, hc⟩
        · exact ⟨q, List.mem_cons_of_mem _ hq, h⟩

/-- A node stands among the outermost ones or right below another one. -/
theorem parent_positionsAmong (around : List Place) (e : Nat) : ∀ ts, ∀ p ∈ positionsAmong around e ts,
    (p.around = around ∧ p.tree ∈ ts) ∨
      ∃ q ∈ positionsAmong around e ts, p.around = q.place :: q.around ∧ p.tree ∈ q.tree.children
  | [], p, hp => by cases hp
  | t :: ts, p, hp => by
      rw [positionsAmong, List.mem_append] at hp
      rw [positionsAmong]
      rcases hp with hp | hp
      · rcases parent_positions around e t p hp with rfl | ⟨q, hq, h⟩
        · exact .inl ⟨rfl, List.mem_cons_self⟩
        · exact .inr ⟨q, List.mem_append_left _ hq, h⟩
      · rcases parent_positionsAmong around _ ts p hp with ⟨ha, hc⟩ | ⟨q, hq, h⟩
        · exact .inl ⟨ha, List.mem_cons_of_mem _ hc⟩
        · exact .inr ⟨q, List.mem_append_right _ hq, h⟩

end

mutual

theorem forall_positions {P : Tree → Prop} (hP : ∀ t, P t → ∀ c ∈ t.children, P c) (around : List Place)
    (e : Nat) : ∀ t, P t → ∀ p ∈ positions around e t, P p.tree
  | .node i cs, h => by
      rw [positions, List.forall_mem_cons]
      exact ⟨h, forall_positionsAmong hP _ 0 cs (hP _ h)⟩

theorem forall_positionsAmong {P : Tree → Prop} (hP : ∀ t, P t → ∀ c ∈ t.children, P c)
    (around : List Place) (e : Nat) : ∀ ts, (∀ t ∈ ts, P t) → ∀ p ∈ positionsAmong around e ts, P p.tree
  | [], _ => by simp [positionsAmong]
  | t :: ts, h => by
      rw [List.forall_mem_cons] at h
      rw [positionsAmong, List.forall_mem_append]
      exact ⟨forall_positions hP around e t h.1, forall_positionsAmong hP around _ ts h.2⟩

end

theorem start_le_stop {t : Tree} (h : inOrder t) : t.span.start ≤ t.span.stop := by
  cases t with
  | node i cs =>
      simp only [inOrder, Bool.and_eq_true, decide_eq_true_eq] at h
      exact h.1

theorem le_of_inOrderWithin {start stop : Nat} {ts : List Tree} (h : inOrderWithin start stop ts) :
    start ≤ stop := by
  induction ts generalizing start with
  | nil => simpa [inOrderWithin] using h
  | cons t ts ih =>
      simp only [inOrderWithin, Bool.and_eq_true, decide_eq_true_eq] at h
      exact Nat.le_trans (Nat.le_trans h.1.1 (start_le_stop h.1.2)) (ih h.2)

def Position.Precedes (p q : Position) : Prop :=
  p.start ≤ q.start ∧ (sizeOf q.tree < sizeOf p.tree ∨ p.tree.span.stop ≤ q.start)

theorem sizeOf_tree_lt (around : List Place) (e : Nat) (i : Syntax.Node Kind) (cs : List Tree) :
    ∀ p ∈ positionsAmong around e cs, sizeOf p.tree < sizeOf (Syntax.Tree.node i cs) :=
  forall_positionsAmong (P := fun c => sizeOf c < sizeOf (Syntax.Tree.node i cs))
    (fun _ h _ hc => Nat.lt_trans (Syntax.Tree.sizeOf_lt_of_mem_children hc) h)
    around e cs fun _ hc => Syntax.Tree.sizeOf_lt_of_mem_children hc

mutual

theorem positions_inOrder (around : List Place) (e : Nat) : ∀ t, inOrder t →
    (positions around e t).Pairwise Position.Precedes ∧
      ∀ p ∈ positions around e t,
        t.span.start ≤ p.start ∧ p.start ≤ p.tree.span.stop ∧ p.tree.span.stop ≤ t.span.stop
  | .node i cs, h => by
      simp only [inOrder, Bool.and_eq_true, decide_eq_true_eq] at h
      obtain ⟨hp, hb⟩ := positionsAmong_inOrder (⟨.node i cs, e⟩ :: around) 0 _ _ cs h.2
      have hlt := sizeOf_tree_lt (⟨.node i cs, e⟩ :: around) 0 i cs
      rw [positions, List.pairwise_cons, List.forall_mem_cons]
      exact ⟨⟨fun q hq => ⟨(hb q hq).1, .inl (hlt q hq)⟩, hp⟩,
        ⟨Nat.le_refl _, h.1, Nat.le_refl _⟩, hb⟩

/-- The nodes of a tree in which everything is in order begin one after another. -/
theorem positionsAmong_inOrder (around : List Place) (e start stop : Nat) : ∀ ts,
    inOrderWithin start stop ts →
    (positionsAmong around e ts).Pairwise Position.Precedes ∧
      ∀ p ∈ positionsAmong around e ts,
        start ≤ p.start ∧ p.start ≤ p.tree.span.stop ∧ p.tree.span.stop ≤ stop
  | [], _ => by simp [positionsAmong]
  | t :: ts, h => by
      simp only [inOrderWithin, Bool.and_eq_true, decide_eq_true_eq] at h
      obtain ⟨⟨hs, ht⟩, hts⟩ := h
      have hle := le_of_inOrderWithin hts
      have hse := start_le_stop ht
      obtain ⟨hp, hb⟩ := positions_inOrder around e t ht
      obtain ⟨hps, hbs⟩ := positionsAmong_inOrder around
        (if t.kind = .elifClause then e + 1 else e) _ _ ts hts
      rw [positionsAmong, List.pairwise_append, List.forall_mem_append]
      refine ⟨⟨hp, hps, ?_⟩, ?_, ?_⟩
      · intro p hp q hq
        have hstop := Nat.le_trans (hb p hp).2.2 (hbs q hq).1
        exact ⟨Nat.le_trans (hb p hp).2.1 hstop, .inr hstop⟩
      · intro p hp
        exact ⟨Nat.le_trans hs (hb p hp).1, (hb p hp).2.1, Nat.le_trans (hb p hp).2.2 hle⟩
      · intro p hp
        exact ⟨Nat.le_trans hs (Nat.le_trans hse (hbs p hp).1), (hbs p hp).2⟩

end

end Scaffold.Python
