import Mathlib.Data.List.Nodup
import Scaffold.Proofs.Python.Positions

namespace Scaffold.Python

theorem not_isPlain_of_block {t : Tree} (h : t.kind = .block) : ¬ isPlain t := by
  cases t with
  | node i cs =>
      rw [Syntax.Tree.kind_node] at h
      simp [isPlain, h, Kind.isClause]

theorem not_isPlain_of_definition {t : Tree} (h : t.kind.isDefinition) : ¬ isPlain t := by
  cases t with
  | node i cs =>
      rw [Syntax.Tree.kind_node] at h
      simp [isPlain, Kind.isCompound_of_isDefinition h]

theorem childByField?_eq_some_iff {t : Tree} {field : String} {p : Tree → Bool} {s : Slot}
    (hf : fits s t.children) (hs : ∀ k s', Slot.Next s k s' → s' = .closed)
    (hp : ∀ c ∈ t.children, (c.info.field = some field) ↔ p c) (hplain : ∀ c, p c → ¬ isPlain c)
    (c : Tree) :
    t.childByField? field = some c ↔ c ∈ t.children ∧ p c := by
  constructor
  · intro h
    have hc := List.mem_of_find?_eq_some h
    have hfield := List.find?_some h
    exact ⟨hc, (hp c hc).mp (by simpa using hfield)⟩
  · rintro ⟨hc, hpc⟩
    have hfound : (t.childByField? field).isSome := by
      rw [Syntax.Tree.childByField?, List.find?_isSome]
      exact ⟨c, hc, by simpa using (hp c hc).mpr hpc⟩
    obtain ⟨d, hd⟩ := Option.isSome_iff_exists.mp hfound
    have hdc := List.mem_of_find?_eq_some hd
    have hfield := List.find?_some hd
    have hpd := (hp d hdc).mp (by simpa using hfield)
    rw [hd, eq_of_fits hs hf hdc hc (hplain d hpd) (hplain c hpc)]

theorem childByField?_body {t : Tree} (hk : t.kind.isDefinition) (hg : IsGrown t) (hl : isLabelled t)
    (b : Tree) : t.childByField? "body" = some b ↔ b ∈ t.children ∧ b.kind = .block := by
  obtain ⟨s, hf⟩ := hg.resolve_left (not_isPlain_of_definition hk)
  have hfield (c : Tree) (hc : c ∈ t.children) : c.info.field = some "body" ↔ c.kind = .block := by
    have h := fieldFits_of_isLabelled hl c hc
    unfold Kind.isDefinition at hk
    split at hk <;> simp_all [fieldFits]
  have hs : s.inside t.kind = .suite := by
    unfold Kind.isDefinition at hk
    split at hk <;> simp_all [Slot.inside]
  rw [hs] at hf
  simpa using childByField?_eq_some_iff (p := fun c => c.kind = .block) hf (by rintro k s' ⟨⟩; rfl)
    (by simpa using hfield) (by simpa using fun c => not_isPlain_of_block) b

theorem childByField?_definition {t : Tree} (hk : t.kind = .decoratedDefinition) (hg : IsGrown t)
    (hl : isLabelled t) (d : Tree) :
    t.childByField? "definition" = some d ↔ d ∈ t.children ∧ d.kind.isDefinition := by
  have hp : ¬ isPlain t := by
    cases t with
    | node i cs =>
        rw [Syntax.Tree.kind_node] at hk
        simp [isPlain, hk, Kind.isCompound]
  obtain ⟨s, hf⟩ := hg.resolve_left hp
  have hfield (c : Tree) (hc : c ∈ t.children) :
      c.info.field = some "definition" ↔ c.kind.isDefinition := by
    have h := fieldFits_of_isLabelled hl c hc
    simp only [fieldFits, hk, beq_iff_eq] at h
    rw [← h, decide_eq_true_eq]
  rw [hk] at hf
  exact childByField?_eq_some_iff (p := fun c => c.kind.isDefinition) hf (by rintro k s' ⟨⟩; rfl)
    hfield (fun c => not_isPlain_of_definition) d

/-- A function is unwrapped from an entry of a class if it is the entry or stands below its
decorators. -/
theorem functionOf?_eq_some_iff {x : Tree} (hg : IsGrown x) (hl : isLabelled x) (f : Tree) :
    functionOf? x = some f ↔ f.kind = .functionDefinition ∧
      (x = f ∨ (x.kind = .decoratedDefinition ∧ f ∈ x.children)) := by
  unfold functionOf?
  split
  case h_1 hk =>
    constructor
    · intro h
      cases h
      exact ⟨hk, .inl rfl⟩
    · rintro ⟨-, rfl | ⟨hd, -⟩⟩
      · rfl
      · rw [hk] at hd
        cases hd
  case h_2 hk =>
    rw [Option.filter_eq_some_iff, childByField?_definition hk hg hl, decide_eq_true_eq]
    constructor
    · rintro ⟨⟨hf, -⟩, hfk⟩
      exact ⟨hfk, .inr ⟨hk, hf⟩⟩
    · rintro ⟨hfk, rfl | ⟨-, hf⟩⟩
      · rw [hk] at hfk
        cases hfk
      · exact ⟨⟨hf, by rw [hfk]; rfl⟩, hfk⟩
  case h_3 hkf hkd =>
    constructor
    · exact nofun
    · rintro ⟨hfk, rfl | ⟨hd, -⟩⟩
      · exact absurd hfk hkf
      · exact absurd hd hkd

theorem mem_filterMap_functionOf?_iff {b : Tree} (hg : IsGrown b) (hl : isLabelled b) (f : Tree) :
    f ∈ b.namedChildren.filterMap functionOf? ↔ f.kind = .functionDefinition ∧
      (f ∈ b.children ∨ ∃ x ∈ b.children, x.kind = .decoratedDefinition ∧ f ∈ x.children) := by
  rw [List.mem_filterMap]
  constructor
  · rintro ⟨x, hx, hf⟩
    have hx := (List.mem_filter.mp hx).1
    rw [functionOf?_eq_some_iff (hg.of_mem_children x hx) (isLabelled_of_mem_children hl x hx)] at hf
    obtain ⟨hfk, rfl | ⟨hd, hfx⟩⟩ := hf
    · exact ⟨hfk, .inl hx⟩
    · exact ⟨hfk, .inr ⟨x, hx, hd, hfx⟩⟩
  · rintro ⟨hfk, hf⟩
    have hentry : ∃ x ∈ b.children, x.kind.isCompound ∧
        (x = f ∨ (x.kind = .decoratedDefinition ∧ f ∈ x.children)) := by
      rcases hf with hf | ⟨x, hx, hd, hf⟩
      · exact ⟨f, hf, by rw [hfk]; rfl, .inl rfl⟩
      · exact ⟨x, hx, by rw [hd]; rfl, .inr ⟨hd, hf⟩⟩
    obtain ⟨x, hx, hc, h⟩ := hentry
    have hlx := isLabelled_of_mem_children hl x hx
    refine ⟨x, List.mem_filter.mpr ⟨hx, named_of_isLabelled hlx hc⟩, ?_⟩
    exact (functionOf?_eq_some_iff (hg.of_mem_children x hx) hlx f).mpr ⟨hfk, h⟩

theorem mem_methodsOf_iff {c : Tree} (hk : c.kind = .classDefinition) (hg : IsGrown c)
    (hl : isLabelled c) (f : Tree) :
    f ∈ methodsOf c ↔ f.kind = .functionDefinition ∧ ∃ b ∈ c.children, b.kind = .block ∧
      (f ∈ b.children ∨ ∃ x ∈ b.children, x.kind = .decoratedDefinition ∧ f ∈ x.children) := by
  have hbody := childByField?_body (by rw [hk]; rfl) hg hl
  have hmem (b : Tree) (hb : b ∈ c.children) :=
    mem_filterMap_functionOf?_iff (hg.of_mem_children b hb) (isLabelled_of_mem_children hl b hb) f
  unfold methodsOf
  split
  case h_1 b hb =>
    have hb' := (hbody b).mp hb
    rw [hmem b hb'.1]
    constructor
    · rintro ⟨hfk, h⟩
      exact ⟨hfk, b, hb'.1, hb'.2, h⟩
    · rintro ⟨hfk, d, hd, hdk, h⟩
      obtain rfl : d = b := Option.some.inj (((hbody d).mpr ⟨hd, hdk⟩).symm.trans hb)
      exact ⟨hfk, h⟩
  case h_2 hnone =>
    constructor
    · exact nofun
    · rintro ⟨-, b, hb, hbk, -⟩
      rw [(hbody b).mpr ⟨hb, hbk⟩] at hnone
      cases hnone

namespace ModuleTree

variable (m : ModuleTree)

def positions : List Position := Python.positions [] 0 m.root

def functions : List Position := m.positions.filter fun p => p.kind = .functionDefinition

def classes : List Position := m.positions.filter fun p => p.kind = .classDefinition

variable {m} {p q c : Position}

theorem mem_functions : p ∈ m.functions ↔ p ∈ m.positions ∧ p.kind = .functionDefinition := by
  simp [functions]

theorem mem_classes : p ∈ m.classes ↔ p ∈ m.positions ∧ p.kind = .classDefinition := by
  simp [classes]

theorem isLabelled_tree (hp : p ∈ m.positions) : isLabelled p.tree :=
  forall_positions (P := fun t => isLabelled t) (fun _ => isLabelled_of_mem_children)
    [] 0 m.root m.labels p hp

theorem isGrown_tree (hp : p ∈ m.positions) (hk : p.kind ≠ .module) : IsGrown p.tree := by
  have hroot := m.shape
  simp only [isModule, Bool.and_eq_true, decide_eq_true_eq] at hroot
  have hdown (t : Tree) (h : t = m.root ∨ IsGrown t) : ∀ c ∈ t.children, c = m.root ∨ IsGrown c := by
    intro c hc
    rcases h with rfl | hg
    · exact .inr (isGrown_of_fits hroot.2 c hc)
    · exact .inr (hg.of_mem_children c hc)
  rcases forall_positions hdown [] 0 m.root (.inl rfl) p hp with he | hg
  · rw [Position.kind, Place.kind, show p.place.tree = m.root from he] at hk
    exact absurd hroot.1 hk
  · exact hg

theorem exists_child (hp : p ∈ m.positions) {t : Tree} (ht : t ∈ p.tree.children) :
    ∃ e, (⟨⟨t, e⟩, p.place :: p.around⟩ : Position) ∈ m.positions :=
  exists_child_positions [] 0 m.root p hp t ht

theorem parent_mem (hp : p ∈ m.positions) {place : Place} {rest : List Place}
    (h : p.around = place :: rest) :
    (⟨place, rest⟩ : Position) ∈ m.positions ∧ p.tree ∈ place.tree.children := by
  rcases parent_positions [] 0 m.root p hp with rfl | ⟨q, hq, ha, hc⟩
  · cases h
  · rw [h] at ha
    cases ha
    exact ⟨hq, hc⟩

theorem nodup_definitions :
    ((m.positions.filter fun p => p.kind.isDefinition).map Position.tree).Nodup := by
  rw [List.Nodup, List.pairwise_map]
  refine List.Pairwise.imp_of_mem ?_ ((positions_inOrder [] 0 m.root m.order).1.filter _)
  intro p q hp hq ⟨hle, hlt⟩ he
  have hd := List.mem_filter.mp hp
  have hne := start_lt_stop_of_isLabelled (isLabelled_tree hd.1) hd.2
  rcases hlt with hlt | hlt
  · rw [he] at hlt
    exact Nat.lt_irrefl _ hlt
  · rw [Position.start, ← he] at hlt
    omega

theorem eq_of_tree_eq (hp : p ∈ m.positions) (hq : q ∈ m.positions) (hk : p.kind.isDefinition)
    (h : p.tree = q.tree) : p = q := by
  have hkq : q.kind.isDefinition := by
    rw [Position.kind, Place.kind, show q.place.tree = p.place.tree from h.symm]
    exact hk
  exact List.inj_on_of_nodup_map nodup_definitions (List.mem_filter.mpr ⟨hp, hk⟩)
    (List.mem_filter.mpr ⟨hq, hkq⟩) h

/-- Going down from a class to a method and up again leads to the same class. -/
theorem owner?_of_mem_methodsOf (hp : p ∈ m.functions) (hc : c ∈ m.classes)
    (h : p.tree ∈ methodsOf c.tree) :
    ∃ b : Place, b.kind = .block ∧ p.owner? = b :: c.place :: c.around := by
  rw [mem_functions] at hp
  rw [mem_classes] at hc
  have hg : IsGrown c.tree := isGrown_tree hc.1 (by rw [hc.2]; exact nofun)
  have hdef : p.kind.isDefinition := by rw [hp.2]; rfl
  obtain ⟨-, b, hb, hbk, hf⟩ := (mem_methodsOf_iff hc.2 hg (isLabelled_tree hc.1) p.tree).mp h
  obtain ⟨e, hbody⟩ := exists_child hc.1 hb
  refine ⟨⟨b, e⟩, hbk, ?_⟩
  rcases hf with hf | ⟨x, hx, hxk, hf⟩
  · obtain ⟨e', hchild⟩ := exists_child hbody hf
    rw [eq_of_tree_eq hp.1 hchild hdef rfl, Position.owner?]
    exact if_neg (by rw [Place.kind, hbk]; exact nofun)
  · obtain ⟨e', hdec⟩ := exists_child hbody hx
    obtain ⟨e'', hchild⟩ := exists_child hdec hf
    rw [eq_of_tree_eq hp.1 hchild hdef rfl, Position.owner?]
    exact if_pos hxk

theorem owner?_mem (hp : p ∈ m.positions) {body : Place} {rest : List Place}
    (h : p.owner? = body :: rest) :
    (⟨body, rest⟩ : Position) ∈ m.positions ∧ (p.tree ∈ body.tree.children ∨
      ∃ x ∈ body.tree.children, x.kind = .decoratedDefinition ∧ p.tree ∈ x.children) := by
  unfold Position.owner? at h
  split at h
  case h_1 d around ha =>
    obtain ⟨hd, hpd⟩ := parent_mem hp ha
    split at h
    · rename_i hk
      obtain ⟨hb, hdb⟩ := parent_mem hd h
      exact ⟨hb, .inr ⟨d.tree, hdb, hk, hpd⟩⟩
    · cases h
      exact ⟨hd, .inl hpd⟩
  case h_2 => cases h

/-- Going up from a method leads to a class whose body holds it. -/
theorem exists_class_of_isMethod (hp : p ∈ m.functions) (h : p.isMethod) :
    ∃ c ∈ m.classes, p.tree ∈ methodsOf c.tree := by
  rw [mem_functions] at hp
  unfold Position.isMethod at h
  split at h
  case h_1 body holder rest ho =>
    simp only [Bool.and_eq_true, decide_eq_true_eq] at h
    obtain ⟨hbody, hf⟩ := owner?_mem hp.1 ho
    obtain ⟨hholder, hb⟩ := parent_mem hbody rfl
    have hg : IsGrown holder.tree := isGrown_tree hholder (by rw [Position.kind, h.2]; exact nofun)
    refine ⟨⟨holder, rest⟩, mem_classes.mpr ⟨hholder, h.2⟩, ?_⟩
    exact (mem_methodsOf_iff h.2 hg (isLabelled_tree hholder) p.tree).mpr
      ⟨hp.2, body.tree, hb, h.1, hf⟩
  case h_2 => cases h

theorem isMethod_iff (hp : p ∈ m.functions) :
    p.isMethod ↔ ∃ c ∈ m.classes, p.tree ∈ methodsOf c.tree := by
  constructor
  · exact exists_class_of_isMethod hp
  · rintro ⟨c, hc, h⟩
    obtain ⟨b, hb, ho⟩ := owner?_of_mem_methodsOf hp hc h
    simp only [Position.isMethod, ho, Bool.and_eq_true, decide_eq_true_eq]
    exact ⟨hb, (mem_classes.mp hc).2⟩

theorem class_unique (hp : p ∈ m.functions) {c d : Position} (hc : c ∈ m.classes) (hd : d ∈ m.classes)
    (h : p.tree ∈ methodsOf c.tree) (h' : p.tree ∈ methodsOf d.tree) : c = d := by
  obtain ⟨b, -, ho⟩ := owner?_of_mem_methodsOf hp hc h
  obtain ⟨b', -, ho'⟩ := owner?_of_mem_methodsOf hp hd h'
  rw [ho] at ho'
  cases c; cases d; cases ho'
  rfl

end ModuleTree

end Scaffold.Python
