import Scaffold.Proofs.Python.ModuleTree

namespace Scaffold.Python

inductive Expr where
  | node (parts : List Expr)

namespace Expr

mutual

def size : Expr → Nat
  | node parts => sizeAmong parts + 1

def sizeAmong : List Expr → Nat
  | [] => 0
  | e :: es => size e + sizeAmong es

end

end Expr

/-- Nodes of the abstract syntax. A module, a statement, an exception handler and a case refer to the
node of the syntax tree that they are read from, and their children are the values of their fields one
after another. -/
inductive Ast where
  | expr (e : Expr)
  | node (source : Tree) (children : List Ast)

namespace Ast

def children : Ast → List Ast
  | expr (.node parts) => parts.map expr
  | node _ cs => cs

def definition? : Ast → Option Tree
  | expr _ => none
  | node t _ => if t.kind.isDefinition then some t else none

mutual

def size : Ast → Nat
  | expr e => e.size
  | node _ cs => sizeAmong cs + 1

def sizeAmong : List Ast → Nat
  | [] => 0
  | a :: as => size a + sizeAmong as

end

theorem sizeAmong_append (as bs : List Ast) : sizeAmong (as ++ bs) = sizeAmong as + sizeAmong bs := by
  induction as with
  | nil => simp [sizeAmong]
  | cons a as ih => simp [sizeAmong, ih, Nat.add_assoc]

theorem sizeAmong_exprs (es : List Expr) : sizeAmong (es.map expr) = Expr.sizeAmong es := by
  induction es with
  | nil => rfl
  | cons e es ih => simp [sizeAmong, Expr.sizeAmong, size, ih]

theorem size_eq (a : Ast) : a.size = sizeAmong a.children + 1 := by
  match a with
  | expr (.node parts) => simp [size, Expr.size, children, sizeAmong_exprs]
  | node t cs => rfl

/-- All nodes that stand in a queue or below, in the order in which a queue gives them out: the first one
leaves it, and its children are put behind the others. -/
def walkFrom : List Ast → List Ast
  | [] => []
  | a :: queue => a :: walkFrom (queue ++ a.children)
termination_by queue => sizeAmong queue
decreasing_by
  rw [sizeAmong_append, sizeAmong, size_eq]
  omega

def walk (a : Ast) : List Ast := walkFrom [a]

theorem walkFrom_append (queue later : List Ast) :
    walkFrom (queue ++ later) = queue ++ walkFrom (later ++ queue.flatMap children) := by
  induction queue generalizing later with
  | nil => simp
  | cons a queue ih =>
      rw [List.cons_append, walkFrom, List.append_assoc, ih, List.flatMap_cons, List.append_assoc,
        List.cons_append]

/-- The queue comes first, then the walk goes on one level below. -/
theorem walkFrom_eq (queue : List Ast) :
    walkFrom queue = queue ++ walkFrom (queue.flatMap children) := by
  simpa using walkFrom_append queue []

theorem sizeAmong_flatMap (queue : List Ast) :
    sizeAmong (queue.flatMap children) + queue.length = sizeAmong queue := by
  induction queue with
  | nil => rfl
  | cons a queue ih =>
      rw [List.flatMap_cons, sizeAmong_append, sizeAmong, size_eq, List.length_cons]
      omega

mutual

def levels (n : Nat) : Ast → List (Nat × Tree)
  | expr _ => []
  | node t cs => (if t.kind.isDefinition then [(n, t)] else []) ++ levelsAmong (n + 1) cs

def levelsAmong (n : Nat) : List Ast → List (Nat × Tree)
  | [] => []
  | a :: as => levels n a ++ levelsAmong n as

end

theorem levelsAmong_append (n : Nat) (as bs : List Ast) :
    levelsAmong n (as ++ bs) = levelsAmong n as ++ levelsAmong n bs := by
  induction as with
  | nil => rfl
  | cons a as ih => simp [levelsAmong, ih]

theorem levelsAmong_exprs (n : Nat) (es : List Expr) : levelsAmong n (es.map expr) = [] := by
  induction es with
  | nil => rfl
  | cons e es ih => simp [levelsAmong, levels, ih]

theorem levels_eq (n : Nat) (a : Ast) :
    levels n a = (a.definition?.map fun t => (n, t)).toList ++ levelsAmong (n + 1) a.children := by
  match a with
  | expr (.node parts) => simp [levels, definition?, children, levelsAmong_exprs]
  | node t cs =>
      simp only [levels, definition?, children]
      split <;> rfl

mutual

theorem le_of_mem_levels (n : Nat) : ∀ a, ∀ x ∈ levels n a, n ≤ x.1
  | expr _, x, hx => by simp [levels] at hx
  | node t cs, x, hx => by
      rw [levels, List.mem_append] at hx
      rcases hx with hx | hx
      · split at hx
        · obtain rfl := List.mem_singleton.mp hx
          exact Nat.le_refl n
        · cases hx
      · exact Nat.le_of_succ_le (le_of_mem_levelsAmong (n + 1) cs x hx)

theorem le_of_mem_levelsAmong (n : Nat) : ∀ as, ∀ x ∈ levelsAmong n as, n ≤ x.1
  | [], x, hx => by cases hx
  | a :: as, x, hx => by
      rw [levelsAmong, List.mem_append] at hx
      rcases hx with hx | hx
      · exact le_of_mem_levels n a x hx
      · exact le_of_mem_levelsAmong n as x hx

end

/-- The definitions at the level of a queue are those in the queue. -/
theorem filter_levelsAmong_eq (n : Nat) (queue : List Ast) :
    (levelsAmong n queue).filter (fun x => x.1 = n) =
      (queue.filterMap definition?).map fun t => (n, t) := by
  induction queue with
  | nil => rfl
  | cons a queue ih =>
      have hb : (levelsAmong (n + 1) a.children).filter (fun x => x.1 = n) = [] := by
        rw [List.filter_eq_nil_iff]
        intro x hx
        have hn := le_of_mem_levelsAmong (n + 1) a.children x hx
        simp only [decide_eq_true_eq]
        omega
      rw [levelsAmong, levels_eq, List.filter_append, List.filter_append, hb, ih, List.append_nil]
      cases hd : a.definition? with
      | none => simp [hd]
      | some t => simp [hd]

/-- The definitions below the level of a queue are those in and below the children of its nodes. -/
theorem filter_levelsAmong_lt (n : Nat) (queue : List Ast) :
    (levelsAmong n queue).filter (fun x => n < x.1) = levelsAmong (n + 1) (queue.flatMap children) := by
  induction queue with
  | nil => rfl
  | cons a queue ih =>
      have hb : (levelsAmong (n + 1) a.children).filter (fun x => n < x.1) =
          levelsAmong (n + 1) a.children := by
        rw [List.filter_eq_self]
        intro x hx
        have hn := le_of_mem_levelsAmong (n + 1) a.children x hx
        simp only [decide_eq_true_eq]
        omega
      rw [levelsAmong, levels_eq, List.filter_append, List.filter_append, hb, ih, List.flatMap_cons,
        levelsAmong_append]
      cases hd : a.definition? with
      | none => simp
      | some t => simp

mutual

/-- A node without the expressions below it; nothing is left of an expression. -/
def bare : Ast → List Ast
  | expr _ => []
  | node t cs => [node t (bareAmong cs)]

def bareAmong : List Ast → List Ast
  | [] => []
  | a :: as => bare a ++ bareAmong as

end

mutual

theorem levelsAmong_bare (n : Nat) : ∀ a, levelsAmong n (bare a) = levels n a
  | expr _ => rfl
  | node t cs => by
      rw [bare, levelsAmong, levelsAmong, List.append_nil, levels, levels, levelsAmong_bareAmong]

theorem levelsAmong_bareAmong (n : Nat) : ∀ as, levelsAmong n (bareAmong as) = levelsAmong n as
  | [] => rfl
  | a :: as => by
      rw [bareAmong, levelsAmong_append, levelsAmong_bare n a, levelsAmong_bareAmong n as, levelsAmong]

end

end Ast

end Scaffold.Python
