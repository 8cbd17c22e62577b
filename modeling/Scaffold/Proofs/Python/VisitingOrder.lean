import Scaffold.Proofs.Python.AstReading
import Scaffold.Proofs.Python.Positions

namespace Scaffold.Python

namespace Position

def levelOf (around : List Place) : Nat := around.dropLast.foldl (fun n place => n + place.nesting) 0

theorem foldl_nesting (n : Nat) (ps : List Place) :
    ps.foldl (fun n place => n + place.nesting) n =
      n + ps.foldl (fun n place => n + place.nesting) 0 := by
  induction ps generalizing n with
  | nil => rfl
  | cons p ps ih => rw [List.foldl_cons, List.foldl_cons, ih, ih (0 + p.nesting)]; omega

theorem levelOf_cons (p : Place) {around : List Place} (h : around ≠ []) :
    levelOf (p :: around) = levelOf around + p.nesting := by
  rw [levelOf, List.dropLast_cons_of_ne_nil h, List.foldl_cons, foldl_nesting, levelOf]
  omega

def mark (p : Position) : Nat × Tree := (p.depth, p.tree)

end Position

mutual

theorem map_mark_positions (around : List Place) (h : around ≠ []) (e : Nat) :
    ∀ t, ((positions around e t).filter Position.isDefinition).map Position.mark =
      nested (Position.levelOf around) e t
  | .node i cs => by
      rw [positions, List.filter_cons, nested, ← Position.levelOf_cons _ h,
        ← map_mark_positionsAmong _ (by simp) 0 cs]
      by_cases hd : i.kind.isDefinition
      · have hp : Position.isDefinition ⟨⟨.node i cs, e⟩, around⟩ := by
          rw [Position.isDefinition_eq]; exact hd
        rw [if_pos hp, if_pos hd]
        rfl
      · have hp : ¬ Position.isDefinition ⟨⟨.node i cs, e⟩, around⟩ := by
          rw [Position.isDefinition_eq]; exact hd
        rw [if_neg hp, if_neg hd, List.nil_append]

theorem map_mark_positionsAmong (around : List Place) (h : around ≠ []) (e : Nat) :
    ∀ ts, ((positionsAmong around e ts).filter Position.isDefinition).map Position.mark =
      nestedAmong (Position.levelOf around) e ts
  | [] => rfl
  | t :: ts => by
      rw [positionsAmong, List.filter_append, List.map_append, map_mark_positions around h e t,
        map_mark_positionsAmong around h _ ts, nestedAmong]

end

def comesBefore (x y : Nat × Tree) : Bool :=
  x.1 < y.1 || (x.1 = y.1 && x.2.span.start ≤ y.2.span.start)

theorem comesBefore_trans (x y z : Nat × Tree) (hxy : comesBefore x y) (hyz : comesBefore y z) :
    comesBefore x z := by
  simp only [comesBefore, Bool.or_eq_true, Bool.and_eq_true, decide_eq_true_eq] at *
  omega

theorem comesBefore_total (x y : Nat × Tree) : comesBefore x y || comesBefore y x := by
  simp only [comesBefore, Bool.or_eq_true, Bool.and_eq_true, decide_eq_true_eq]
  omega

theorem append_inj_of_forall {α : Type} (p : α → Bool) {l₁ l₂ m₁ m₂ : List α}
    (h : l₁ ++ l₂ = m₁ ++ m₂) (hl₁ : ∀ x ∈ l₁, p x) (hl₂ : ∀ x ∈ l₂, ¬ p x) (hm₁ : ∀ x ∈ m₁, p x)
    (hm₂ : ∀ x ∈ m₂, ¬ p x) : l₁ = m₁ ∧ l₂ = m₂ := by
  have hf := congrArg (List.filter p) h
  rw [List.filter_append, List.filter_append, List.filter_eq_self.mpr hl₁, List.filter_eq_self.mpr hm₁,
    List.filter_eq_nil_iff.mpr hl₂, List.filter_eq_nil_iff.mpr hm₂, List.append_nil,
    List.append_nil] at hf
  exact ⟨hf, List.append_cancel_left (hf ▸ h)⟩

theorem mergeSort_cons_of_forall {a : Nat × Tree} {l : List (Nat × Tree)}
    (h : ∀ b ∈ l, comesBefore a b) :
    (a :: l).mergeSort comesBefore = a :: l.mergeSort comesBefore := by
  obtain ⟨l₁, l₂, hs, hr, hlt⟩ := List.mergeSort_cons comesBefore_trans comesBefore_total a l
  have hnil : l₁ = [] := by
    rw [List.eq_nil_iff_forall_not_mem]
    intro b hb
    have hmem : b ∈ l.mergeSort comesBefore := by
      rw [hr]
      exact List.mem_append_left l₂ hb
    have hlt := hlt b hb
    simp [h b (List.mem_mergeSort.mp hmem)] at hlt
  rw [hs, hr, hnil]
  rfl

/-- An element that comes after what stands in front of a sorted list is put into the rest of it. -/
theorem mergeSort_cons_append {a : Nat × Tree} {l l' m : List (Nat × Tree)}
    (hl : l.mergeSort comesBefore = m ++ l'.mergeSort comesBefore)
    (hm : ∀ b ∈ m, ¬ comesBefore a b) :
    (a :: l).mergeSort comesBefore = m ++ (a :: l').mergeSort comesBefore := by
  obtain ⟨l₁, l₂, hs, hr, hlt⟩ := List.mergeSort_cons comesBefore_trans comesBefore_total a l
  obtain ⟨m₁, m₂, gs, gr, glt⟩ := List.mergeSort_cons comesBefore_trans comesBefore_total a l'
  have hle := List.pairwise_mergeSort comesBefore_trans comesBefore_total (a :: l)
  have gle := List.pairwise_mergeSort comesBefore_trans comesBefore_total (a :: l')
  rw [hs, List.pairwise_append, List.pairwise_cons] at hle
  rw [gs, List.pairwise_append, List.pairwise_cons] at gle
  have he : l₁ ++ l₂ = (m ++ m₁) ++ m₂ := by
    rw [← hr, hl, gr, List.append_assoc]
  have hfront : ∀ b ∈ m ++ m₁, !comesBefore a b := by
    intro b hb
    rcases List.mem_append.mp hb with hb | hb
    · simpa using hm b hb
    · exact glt b hb
  obtain ⟨rfl, rfl⟩ := append_inj_of_forall (fun b => !comesBefore a b) he hlt
    (by simpa using hle.2.1.1) hfront (by simpa using gle.2.1.1)
  rw [hs, gs, List.append_assoc]

/-- Sorting takes what is least deep to the front and keeps its order. -/
theorem mergeSort_comesBefore (n : Nat) (l : List (Nat × Tree)) (hn : ∀ x ∈ l, n ≤ x.1)
    (hl : l.Pairwise fun x y => x.2.span.start ≤ y.2.span.start) :
    l.mergeSort comesBefore =
      l.filter (fun x => x.1 = n) ++ (l.filter fun x => n < x.1).mergeSort comesBefore := by
  induction l with
  | nil => simp
  | cons a l ih =>
      rw [List.forall_mem_cons] at hn
      rw [List.pairwise_cons] at hl
      by_cases ha : a.1 = n
      · have hfirst : ∀ b ∈ l, comesBefore a b := by
          intro b hb
          have hnb := hn.2 b hb
          have hsb := hl.1 b hb
          simp only [comesBefore, Bool.or_eq_true, Bool.and_eq_true, decide_eq_true_eq]
          omega
        rw [mergeSort_cons_of_forall hfirst, ih hn.2 hl.2, List.filter_cons_of_pos (by simpa using ha),
          List.filter_cons_of_neg (by simp [ha]), List.cons_append]
      · have hna : n < a.1 := Nat.lt_of_le_of_ne hn.1 (Ne.symm ha)
        have hafter : ∀ b ∈ l.filter fun x => x.1 = n, ¬ comesBefore a b := by
          intro b hb
          have hbn : b.1 = n := by simpa using (List.mem_filter.mp hb).2
          simp only [comesBefore, Bool.or_eq_true, Bool.and_eq_true, decide_eq_true_eq]
          omega
        rw [mergeSort_cons_append (ih hn.2 hl.2) hafter, List.filter_cons_of_neg (by simpa using ha),
          List.filter_cons_of_pos (by simpa using hna)]

theorem map_mergeSort_levelsAmong (n : Nat) (queue : List Ast)
    (h : (Ast.levelsAmong n queue).Pairwise fun x y => x.2.span.start ≤ y.2.span.start) :
    ((Ast.levelsAmong n queue).mergeSort comesBefore).map Prod.snd =
      (Ast.walkFrom queue).filterMap Ast.definition? := by
  cases queue with
  | nil => simp [Ast.levelsAmong, Ast.walkFrom]
  | cons a queue =>
      have hlt : Ast.sizeAmong ((a :: queue).flatMap Ast.children) < Ast.sizeAmong (a :: queue) := by
        have := Ast.sizeAmong_flatMap (a :: queue)
        rw [List.length_cons] at this
        omega
      have hb := Ast.filter_levelsAmong_lt n (a :: queue)
      have hp : (Ast.levelsAmong (n + 1) ((a :: queue).flatMap Ast.children)).Pairwise
          fun x y => x.2.span.start ≤ y.2.span.start := by
        rw [← hb]
        exact h.filter _
      rw [mergeSort_comesBefore n _ (Ast.le_of_mem_levelsAmong n _) h, hb, Ast.filter_levelsAmong_eq,
        List.map_append, map_mergeSort_levelsAmong (n + 1) _ hp, List.map_map,
        Ast.walkFrom_eq (a :: queue), List.filterMap_append, Function.comp_def, List.map_id']
termination_by Ast.sizeAmong queue

theorem map_mark_positions_module {t : Tree} (h : isModule t) :
    ((positions [] 0 t).filter Position.isDefinition).map Position.mark =
      Ast.levels 0 (Ast.ofModule t) := by
  cases t with
  | node i cs =>
      simp only [isModule, Bool.and_eq_true, decide_eq_true_eq] at h
      rw [Syntax.Tree.kind_node] at h
      have hroot : ¬ Position.isDefinition ⟨⟨.node i cs, 0⟩, []⟩ := by
        rw [Position.isDefinition_eq, Position.kind, Place.kind, Syntax.Tree.kind_node, h.1]
        decide
      have hd : ¬ (Syntax.Tree.node i cs).kind.isDefinition := by
        rw [Syntax.Tree.kind_node, h.1]
        decide
      rw [positions, List.filter_cons_of_neg hroot, map_mark_positionsAmong _ (by simp),
        nestedAmong_eq .statements cs h.2 _ 0 (.inr (.inr rfl)), Ast.ofModule, Ast.levels, if_neg hd]
      rfl

/-- The definitions of a module are visited in the order in which a walk through its abstract syntax
meets them, whatever expressions stand in it. -/
theorem definitions_eq_walk (m : ModuleTree) (a : Ast) (ha : a.bare = [Ast.ofModule m.root]) :
    (definitions m.root).map Position.tree = a.walk.filterMap Ast.definition? := by
  have hmarks : ((positions [] 0 m.root).filter Position.isDefinition).map Position.mark =
      Ast.levelsAmong 0 [a] := by
    rw [map_mark_positions_module m.shape, Ast.levelsAmong, ← Ast.levelsAmong_bare 0 a, ha]
    simp [Ast.levelsAmong]
  have hpairwise : (Ast.levelsAmong 0 [a]).Pairwise fun x y => x.2.span.start ≤ y.2.span.start := by
    rw [← hmarks, List.pairwise_map]
    exact ((positions_inOrder [] 0 m.root m.order).1.filter _).imp And.left
  calc (definitions m.root).map Position.tree
      = ((definitions m.root).map Position.mark).map Prod.snd := by rw [List.map_map]; rfl
    _ = ((Ast.levelsAmong 0 [a]).mergeSort comesBefore).map Prod.snd := by
        rw [definitions, ← hmarks]
        exact congrArg _ (List.map_mergeSort fun p _ q _ => rfl)
    _ = a.walk.filterMap Ast.definition? := map_mergeSort_levelsAmong 0 [a] hpairwise

def sampleAst : Ast :=
  .node ModuleTree.sample.root (.expr (.node []) :: Ast.statements ModuleTree.sample.root.children)

theorem definitions_eq_walk_sample : sampleAst.bare = [Ast.ofModule ModuleTree.sample.root] ∧
    (definitions ModuleTree.sample.root).map Position.tree = sampleAst.walk.filterMap Ast.definition? :=
  ⟨rfl, definitions_eq_walk ModuleTree.sample sampleAst rfl⟩

end Scaffold.Python
