import Mathlib.Data.List.Perm.Basic
import Scaffold.Proofs.Python.Members

namespace Scaffold

theorem isPublicFunction_iff (name : String) : isPublicFunction name ↔ ¬ ['_'] <+: name.toList := by
  rw [isPublicFunction]
  cases name.toList with
  | nil => simp
  | cons c cs =>
      rw [List.head?_cons, bne_iff_ne, ne_eq, Option.some.injEq, List.cons_prefix_cons]
      exact ⟨fun h hp => h hp.1.symm, fun h he => h ⟨he.symm, List.nil_prefix⟩⟩

theorem isPublicMethod_iff (name : String) :
    isPublicMethod name ↔ ¬ ['_'] <+: name.toList ∨ ['_', '_'] <+: name.toList := by
  rw [isPublicMethod, Bool.or_eq_true, isPublicFunction_iff, List.isPrefixOf_iff_prefix]

theorem Outline.methodCount_eq (o : Outline) :
    o.methodCount = (o.classes.flatMap (·.methods)).length := by
  have h (n : Nat) (cs : List ClassOutline) :
      cs.foldl (fun n c => n + c.methods.length) n = n + (cs.flatMap (·.methods)).length := by
    induction cs generalizing n with
    | nil => simp
    | cons c cs ih => rw [List.foldl_cons, ih, List.flatMap_cons, List.length_append]; omega
  rw [methodCount, h, Nat.zero_add]

namespace Python

theorem inOrderWithin_children {start stop : Nat} {ts : List Tree} (h : inOrderWithin start stop ts) :
    ts.Pairwise (fun a b => a.span.stop ≤ b.span.start) ∧
      ∀ t ∈ ts, inOrder t ∧ start ≤ t.span.start ∧ t.span.stop ≤ stop := by
  induction ts generalizing start with
  | nil => simp
  | cons t ts ih =>
      simp only [inOrderWithin, Bool.and_eq_true, decide_eq_true_eq] at h
      obtain ⟨⟨hs, ht⟩, hts⟩ := h
      obtain ⟨hp, hb⟩ := ih hts
      have hse := start_le_stop ht
      rw [List.pairwise_cons, List.forall_mem_cons]
      refine ⟨⟨fun b hb' => (hb b hb').2.1, hp⟩, ⟨ht, hs, le_of_inOrderWithin hts⟩, ?_⟩
      intro b hb'
      obtain ⟨hbo, hbs, hbe⟩ := hb b hb'
      exact ⟨hbo, by omega, hbe⟩

theorem inOrder_children {t : Tree} (h : inOrder t) :
    t.children.Pairwise (fun a b => a.span.stop ≤ b.span.start) ∧
      ∀ c ∈ t.children, inOrder c ∧ t.span.start ≤ c.span.start ∧ c.span.stop ≤ t.span.stop := by
  cases t with
  | node i cs =>
      simp only [inOrder, Bool.and_eq_true, decide_eq_true_eq] at h
      exact inOrderWithin_children h.2

theorem span_of_functionOf? {x f : Tree} (hg : IsGrown x) (hl : isLabelled x) (ho : inOrder x)
    (hf : functionOf? x = some f) :
    x.span.start ≤ f.span.start ∧ f.span.start < f.span.stop ∧ f.span.stop ≤ x.span.stop := by
  obtain ⟨hfk, h⟩ := (functionOf?_eq_some_iff hg hl f).mp hf
  have hdef : f.kind.isDefinition := by rw [hfk]; rfl
  rcases h with rfl | ⟨-, hfx⟩
  · exact ⟨Nat.le_refl _, start_lt_stop_of_isLabelled hl hdef, Nat.le_refl _⟩
  · obtain ⟨-, hs, he⟩ := (inOrder_children ho).2 f hfx
    exact ⟨hs, start_lt_stop_of_isLabelled (isLabelled_of_mem_children hl f hfx) hdef, he⟩

theorem methodsOf_pairwise {c : Tree} (hk : c.kind = .classDefinition) (hg : IsGrown c)
    (hl : isLabelled c) (ho : inOrder c) : (methodsOf c).Pairwise fun f g => f.span.start < g.span.start := by
  unfold methodsOf
  split
  case h_1 b hb =>
    have hbc := (childByField?_body (by rw [hk]; rfl) hg hl b).mp hb
    have hgb := hg.of_mem_children b hbc.1
    have hlb := isLabelled_of_mem_children hl b hbc.1
    obtain ⟨hp, hin⟩ := inOrder_children ((inOrder_children ho).2 b hbc.1).1
    have hwithin (x f : Tree) (hx : x ∈ b.children) (hf : functionOf? x = some f) :=
      span_of_functionOf? (hgb.of_mem_children x hx) (isLabelled_of_mem_children hlb x hx)
        (hin x hx).1 hf
    rw [List.pairwise_filterMap]
    refine List.Pairwise.imp_of_mem ?_ (hp.filter _)
    intro x y hx hy hxy f hf g hg
    have hxf := hwithin x f (List.mem_filter.mp hx).1 hf
    have hyg := hwithin y g (List.mem_filter.mp hy).1 hg
    omega
  case h_2 => exact List.Pairwise.nil

namespace ModuleTree

variable {m : ModuleTree}

theorem inOrder_tree {p : Position} (hp : p ∈ m.positions) : inOrder p.tree :=
  forall_positions (P := fun t => inOrder t) (fun _ h c hc => ((inOrder_children h).2 c hc).1)
    [] 0 m.root m.order p hp

theorem isGrown_class {c : Position} (hc : c ∈ m.classes) : IsGrown c.tree := by
  rw [mem_classes] at hc
  exact isGrown_tree hc.1 (by rw [hc.2]; exact nofun)

theorem exists_function_of_mem_methodsOf {c : Position} (hc : c ∈ m.classes) {t : Tree}
    (h : t ∈ methodsOf c.tree) : ∃ f ∈ m.functions, f.tree = t := by
  have hg := isGrown_class hc
  rw [mem_classes] at hc
  obtain ⟨hk, b, hb, -, hf⟩ := (mem_methodsOf_iff hc.2 hg (isLabelled_tree hc.1) t).mp h
  obtain ⟨e, hbody⟩ := exists_child hc.1 hb
  rcases hf with hf | ⟨x, hx, -, hf⟩
  · obtain ⟨e', hchild⟩ := exists_child hbody hf
    exact ⟨_, mem_functions.mpr ⟨hchild, hk⟩, rfl⟩
  · obtain ⟨e', hdec⟩ := exists_child hbody hx
    obtain ⟨e'', hchild⟩ := exists_child hdec hf
    exact ⟨_, mem_functions.mpr ⟨hchild, hk⟩, rfl⟩

theorem methodsOf_class_pairwise {c : Position} (hc : c ∈ m.classes) :
    (methodsOf c.tree).Pairwise fun f g => f.span.start < g.span.start := by
  have hg := isGrown_class hc
  rw [mem_classes] at hc
  exact methodsOf_pairwise hc.2 hg (isLabelled_tree hc.1) (inOrder_tree hc.1)

theorem nodup_map_tree (k : Kind) (hk : k.isDefinition) :
    ((m.positions.filter fun p => p.kind = k).map Position.tree).Nodup := by
  refine nodup_definitions.sublist (List.Sublist.map _ (List.monotone_filter_right _ ?_))
  intro p hp
  rw [decide_eq_true_eq] at hp
  rwa [hp]

theorem nodup_functions : (m.functions.map Position.tree).Nodup := nodup_map_tree .functionDefinition rfl

theorem nodup_classes : (m.classes.map Position.tree).Nodup := nodup_map_tree .classDefinition rfl

/-- The methods of all classes are the functions that stand in the body of a class. -/
theorem methods_perm : ((m.functions.filter (·.isMethod)).map Position.tree).Perm
    (m.classes.flatMap fun c => methodsOf c.tree) := by
  have hleft : ((m.functions.filter (·.isMethod)).map Position.tree).Nodup :=
    nodup_functions.sublist (List.Sublist.map _ List.filter_sublist)
  have hright : (m.classes.flatMap fun c => methodsOf c.tree).Nodup := by
    rw [List.nodup_flatMap]
    constructor
    · intro c hc
      refine (methodsOf_class_pairwise hc).imp ?_
      rintro f g hlt rfl
      exact Nat.lt_irrefl _ hlt
    · refine List.Pairwise.imp_of_mem ?_ (nodup_classes.of_map _)
      intro c d hc hd hne t htc htd
      obtain ⟨f, hf, rfl⟩ := exists_function_of_mem_methodsOf hc htc
      exact hne (class_unique hf hc hd htc htd)
  rw [List.perm_ext_iff_of_nodup hleft hright]
  intro t
  rw [List.mem_map, List.mem_flatMap]
  constructor
  · rintro ⟨f, hf, rfl⟩
    rw [List.mem_filter] at hf
    exact (isMethod_iff hf.1).mp hf.2
  · rintro ⟨c, hc, h⟩
    obtain ⟨f, hf, rfl⟩ := exists_function_of_mem_methodsOf hc h
    exact ⟨f, List.mem_filter.mpr ⟨hf, (isMethod_iff hf).mpr ⟨c, hc, h⟩⟩, rfl⟩

/-- Visiting the definitions in another order loses none and repeats none. -/
theorem definitions_filter_perm (p : Position → Bool) (hp : ∀ d, p d → d.kind.isDefinition) :
    ((definitions m.root).filter p).Perm (m.positions.filter p) := by
  have h := (List.mergeSort_perm (m.positions.filter Position.isDefinition) Position.before).filter p
  rw [List.filter_filter] at h
  refine h.trans (List.Perm.of_eq (List.filter_congr ?_))
  intro d _
  rw [Position.isDefinition_eq]
  cases hd : p d with
  | false => rfl
  | true => exact hp d hd

theorem exists_positions {l : List Tree} (h : ∀ t ∈ l, ∃ f ∈ m.functions, f.tree = t) :
    ∃ fs : List Position, fs.map Position.tree = l ∧ ∀ f ∈ fs, f ∈ m.functions := by
  induction l with
  | nil => exact ⟨[], rfl, by simp⟩
  | cons t l ih =>
      rw [List.forall_mem_cons] at h
      obtain ⟨f, hf, rfl⟩ := h.1
      obtain ⟨fs, rfl, hfs⟩ := ih h.2
      exact ⟨f :: fs, rfl, List.forall_mem_cons.mpr ⟨hf, hfs⟩⟩

theorem tree_inj {f g : Position} (hf : f ∈ m.functions) (hg : g ∈ m.functions) (h : f.tree = g.tree) :
    f = g := by
  rw [mem_functions] at hf hg
  exact eq_of_tree_eq hf.1 hg.1 (by rw [hf.2]; rfl) h

variable (src : Source)

def nameOf (f : Position) : List Char := (Python.nameOf src f.tree).toList

def isHidden (f : Position) : Bool :=
  if f.isMethod then !isPublicMethod (Python.nameOf src f.tree)
  else !isPublicFunction (Python.nameOf src f.tree)

/-- How an outline lists the functions and classes of a module: every one that is not hidden once, and
methods apart from other functions. -/
structure Accounts (m : ModuleTree) (o : Outline) : Prop where
  isMethod_iff : ∀ f ∈ m.functions, f.isMethod ↔ ∃! c, c ∈ m.classes ∧ f.tree ∈ methodsOf c.tree
  functions : ∃ fs : List Position, fs.Nodup ∧ o.functions = fs.map (fun f => signatureOf src f.tree) ∧
    ∀ f, f ∈ fs ↔ f ∈ m.functions ∧ ¬ f.isMethod ∧ ¬ ['_'] <+: nameOf src f
  classes : ∃ cs : List Position, cs.Nodup ∧ o.classes = cs.map (fun c => classOf src c.tree) ∧
    ∀ c, c ∈ cs ↔ c ∈ m.classes
  methods : ∀ c ∈ m.classes, ∃ ms : List Position, ms.Pairwise (fun f g => f.start < g.start) ∧
    (classOf src c.tree).methods = ms.map (fun f => signatureOf src f.tree) ∧
    ∀ f, f ∈ ms ↔ f ∈ m.functions ∧ f.isMethod ∧ f.tree ∈ methodsOf c.tree ∧
      (¬ ['_'] <+: nameOf src f ∨ ['_', '_'] <+: nameOf src f)
  count : o.functions.length + o.methodCount + (m.functions.filter (isHidden src)).length =
    m.functions.length

theorem accounts_methods {c : Position} (hc : c ∈ m.classes) :
    ∃ ms : List Position, ms.Pairwise (fun f g => f.start < g.start) ∧
      (classOf src c.tree).methods = ms.map (fun f => signatureOf src f.tree) ∧
      ∀ f, f ∈ ms ↔ f ∈ m.functions ∧ f.isMethod ∧ f.tree ∈ methodsOf c.tree ∧
        (¬ ['_'] <+: nameOf src f ∨ ['_', '_'] <+: nameOf src f) := by
  obtain ⟨ms, hms, hmem⟩ := exists_positions (m := m)
    (l := (methodsOf c.tree).filter fun f => isPublicMethod (Python.nameOf src f))
    fun t ht => exists_function_of_mem_methodsOf hc (List.mem_filter.mp ht).1
  refine ⟨ms, ?_, ?_, ?_⟩
  · have hp := (methodsOf_class_pairwise hc).filter fun f => isPublicMethod (Python.nameOf src f)
    rw [← hms, List.pairwise_map] at hp
    exact hp
  · rw [classOf, ← hms, List.map_map]
    rfl
  · intro f
    have hiff : f.tree ∈ ms.map Position.tree ↔ f.tree ∈ methodsOf c.tree ∧
        (¬ ['_'] <+: nameOf src f ∨ ['_', '_'] <+: nameOf src f) := by
      rw [hms, List.mem_filter, isPublicMethod_iff]
      rfl
    constructor
    · intro hf
      obtain ⟨hfc, hpub⟩ := hiff.mp (List.mem_map_of_mem hf)
      exact ⟨hmem f hf, (isMethod_iff (hmem f hf)).mpr ⟨c, hc, hfc⟩, hfc, hpub⟩
    · rintro ⟨hf, -, h⟩
      obtain ⟨g, hg, he⟩ := List.mem_map.mp (hiff.mpr h)
      rwa [← tree_inj (hmem g hg) hf he]

def listed (m : ModuleTree) : List Position :=
  (definitions m.root).filter fun d =>
    d.kind = .functionDefinition && !d.isMethod && isPublicFunction (Python.nameOf src d.tree)

theorem functions_eq (path : String) :
    (outlineOf src path m.root).functions = (listed src m).map fun f => signatureOf src f.tree := by
  rw [outlineOf, freeFunctions, List.filter_map, List.map_map, List.filter_filter, listed]
  refine congrArg (List.map _) (List.filter_congr ?_)
  intro d _
  exact Bool.and_comm _ _

theorem listed_perm :
    (listed src m).Perm (m.functions.filter fun f => !f.isMethod && !isHidden src f) := by
  refine (definitions_filter_perm _ ?_).trans (List.Perm.of_eq ?_)
  · intro d hd
    simp only [Bool.and_eq_true, decide_eq_true_eq] at hd
    rw [hd.1.1]
    rfl
  · rw [functions, List.filter_filter]
    refine List.filter_congr ?_
    intro d _
    cases hm : d.isMethod <;> simp [isHidden, hm, Bool.and_comm]

theorem classes_perm :
    ((definitions m.root).filter fun d => d.kind = .classDefinition).Perm m.classes := by
  refine definitions_filter_perm _ ?_
  intro d hd
  rw [decide_eq_true_eq] at hd
  rw [hd]
  rfl

theorem countP_add_countP_add_countP {α : Type} (p q : α → Bool) (l : List α) :
    l.countP (fun a => !p a && !q a) + l.countP (fun a => p a && !q a) + l.countP q = l.length := by
  induction l with
  | nil => rfl
  | cons a l ih =>
      cases hp : p a <;> cases hq : q a <;> simp [hp, hq] <;> omega

theorem methodCount_eq (path : String) : (outlineOf src path m.root).methodCount =
    m.functions.countP fun f => f.isMethod && !isHidden src f := by
  let isShown (t : Tree) : Bool := isPublicMethod (Python.nameOf src t)
  let visited := (definitions m.root).filter fun d => d.kind = .classDefinition
  have hclasses : (outlineOf src path m.root).classes.flatMap (·.methods) =
      ((visited.flatMap fun c => methodsOf c.tree).filter isShown).map (signatureOf src) := by
    rw [outlineOf, Python.classes, List.map_map, List.flatMap_map, List.filter_flatMap, List.map_flatMap]
    rfl
  calc (outlineOf src path m.root).methodCount
      = (visited.flatMap fun c => methodsOf c.tree).countP isShown := by
        rw [Outline.methodCount_eq, hclasses, List.length_map, List.countP_eq_length_filter]
    _ = (m.classes.flatMap fun c => methodsOf c.tree).countP isShown :=
        (classes_perm.flatMap_right _).countP_eq _
    _ = ((m.functions.filter (·.isMethod)).map Position.tree).countP isShown :=
        (methods_perm.countP_eq _).symm
    _ = m.functions.countP fun f => f.isMethod && !isHidden src f := by
        rw [List.countP_map, List.countP_filter]
        refine List.countP_congr ?_
        intro f _
        cases hm : f.isMethod <;> simp [isHidden, hm, isShown]

/-- Every function of a module without flaws is a method of one class or of none, and is listed exactly
once with the methods of the class or with the functions, unless it is hidden. -/
theorem outlineOfTree_accounts (path : String) (m : ModuleTree) (h : m.root.info.flawed = false) :
    ∃ o, outlineOfTree src path m.root = .ok o ∧ Accounts src m o := by
  refine ⟨outlineOf src path m.root, ?_, ?_, ?_, ?_, ?_, ?_⟩
  · rw [outlineOfTree, h]
    rfl
  · intro f hf
    rw [isMethod_iff hf]
    constructor
    · rintro ⟨c, hc, hfc⟩
      exact ⟨c, ⟨hc, hfc⟩, fun d hd => class_unique hf hd.1 hc hd.2 hfc⟩
    · rintro ⟨c, hc, -⟩
      exact ⟨c, hc⟩
  · refine ⟨listed src m, ?_, functions_eq src path, ?_⟩
    · exact (listed_perm src).nodup_iff.mpr ((nodup_functions.of_map _).filter _)
    · intro f
      rw [(listed_perm src).mem_iff, List.mem_filter, nameOf, ← isPublicFunction_iff]
      cases hm : f.isMethod <;> simp [isHidden, hm]
  · refine ⟨(definitions m.root).filter fun d => d.kind = .classDefinition, ?_, ?_, ?_⟩
    · exact classes_perm.nodup_iff.mpr (nodup_classes.of_map _)
    · rw [outlineOf, Python.classes, List.map_map]
      rfl
    · exact fun c => classes_perm.mem_iff
  · exact fun c hc => accounts_methods src hc
  · rw [functions_eq, List.length_map, (listed_perm src).length_eq, methodCount_eq,
      ← List.countP_eq_length_filter, ← List.countP_eq_length_filter]
    exact countP_add_countP_add_countP Position.isMethod (isHidden src) m.functions

theorem outlineOfTree_accounts_sample : sample.root.info.flawed = false ∧
    ∃ o, outlineOfTree (.ofString sampleText) "m.py" sample.root = .ok o ∧
      Accounts (.ofString sampleText) sample o :=
  ⟨rfl, outlineOfTree_accounts (.ofString sampleText) "m.py" sample rfl⟩

end ModuleTree

end Python

end Scaffold
