import Scaffold.Storage.Disk

namespace Scaffold.Storage.Disk

def WordBefore (s t : String) : Prop := List.Lex (fun a b : Char => a.toNat < b.toNat) s.toList t.toList

def Before : Location → Location → Prop := List.Lex WordBefore

theorem lex_trichotomy {α : Type} {r : α → α → Prop} (h : ∀ a b, a = b ∨ r a b ∨ r b a) (l k : List α) :
    l = k ∨ List.Lex r l k ∨ List.Lex r k l := by
  induction l generalizing k with
  | nil =>
      cases k with
      | nil => exact .inl rfl
      | cons b k => exact .inr (.inl .nil)
  | cons a l ih =>
      cases k with
      | nil => exact .inr (.inr .nil)
      | cons b k =>
          obtain rfl | hab | hba := h a b
          · obtain rfl | hlk | hkl := ih k
            · exact .inl rfl
            · exact .inr (.inl (.cons hlk))
            · exact .inr (.inr (.cons hkl))
          · exact .inr (.inl (.rel hab))
          · exact .inr (.inr (.rel hba))

theorem wordBefore_irrefl (s : String) : ¬ WordBefore s s :=
  List.lex_irrefl (fun c : Char => Nat.lt_irrefl c.toNat) s.toList

theorem wordBefore_trans {s t u : String} (h : WordBefore s t) (h' : WordBefore t u) : WordBefore s u :=
  List.lex_trans (fun hab hbc => Nat.lt_trans hab hbc) h h'

theorem wordBefore_trichotomy (s t : String) : s = t ∨ WordBefore s t ∨ WordBefore t s := by
  have hchars (a b : Char) : a = b ∨ a.toNat < b.toNat ∨ b.toNat < a.toNat := by
    obtain hlt | heq | hgt := Nat.lt_trichotomy a.toNat b.toNat
    · exact .inr (.inl hlt)
    · exact .inl (Char.toNat_inj.mp heq)
    · exact .inr (.inr hgt)
  obtain heq | hlt | hgt := lex_trichotomy hchars s.toList t.toList
  · exact .inl (String.toList_inj.mp heq)
  · exact .inr (.inl hlt)
  · exact .inr (.inr hgt)

theorem before_irrefl (l : Location) : ¬ Before l l := List.lex_irrefl wordBefore_irrefl l

theorem isWordBefore_iff (s t : List Char) :
    isWordBefore s t = true ↔ s = t ∨ List.Lex (fun a b : Char => a.toNat < b.toNat) s t := by
  induction s generalizing t with
  | nil => cases t <;> simp [isWordBefore]
  | cons a s ih =>
      cases t with
      | nil => simp [isWordBefore]
      | cons b t =>
          rw [isWordBefore, List.cons_lex_cons_iff]
          by_cases hab : a = b
          · subst hab
            simp [ih]
          · simp [hab]

theorem isWordBefore_toList_iff (s t : String) :
    isWordBefore s.toList t.toList = true ↔ s = t ∨ WordBefore s t := by
  rw [isWordBefore_iff, String.toList_inj, WordBefore]

theorem isWordBefore_trans (s t u : String) (h : isWordBefore s.toList t.toList = true)
    (h' : isWordBefore t.toList u.toList = true) : isWordBefore s.toList u.toList = true := by
  rw [isWordBefore_toList_iff] at h h' ⊢
  obtain rfl | h := h
  · exact h'
  · obtain rfl | h' := h'
    · exact .inr h
    · exact .inr (wordBefore_trans h h')

theorem isWordBefore_total (s t : String) :
    (isWordBefore s.toList t.toList || isWordBefore t.toList s.toList) = true := by
  rw [Bool.or_eq_true, isWordBefore_toList_iff, isWordBefore_toList_iff]
  obtain h | h | h := wordBefore_trichotomy s t
  · exact .inl (.inl h)
  · exact .inl (.inr h)
  · exact .inr (.inr h)

variable {d : Disk} {l k : Location} {name : String} {names : List String} {e : Entry}

theorem nameIn?_eq_some_iff : nameIn? l k = some name ↔ k = l ++ [name] := by
  rw [nameIn?, Option.ite_none_right_eq_some]
  constructor
  · rintro ⟨rfl, hlast⟩
    obtain ⟨before, rfl⟩ := List.getLast?_eq_some_iff.mp hlast
    rw [List.dropLast_concat]
  · rintro rfl
    simp

theorem mem_names : name ∈ d.names l ↔ ∃ e, (l ++ [name], e) ∈ d.entries := by
  simp only [Disk.names, List.mem_mergeSort, List.mem_filterMap, nameIn?_eq_some_iff, Prod.exists]
  constructor
  · rintro ⟨k, e, hmem, rfl⟩
    exact ⟨e, hmem⟩
  · rintro ⟨e, hmem⟩
    exact ⟨_, e, hmem, rfl⟩

/-- If no location has two entries, the names in a directory stand in strict order. -/
theorem pairwise_names (hkeys : (d.entries.map (·.1)).Nodup) (l : Location) : (d.names l).Pairwise WordBefore := by
  have hsorted : (d.names l).Pairwise fun s t => isWordBefore s.toList t.toList = true :=
    List.pairwise_mergeSort isWordBefore_trans isWordBefore_total _
  have hnodup : (d.names l).Nodup := by
    rw [Disk.names, (List.mergeSort_perm _ _).nodup_iff]
    refine List.Pairwise.filterMap _ ?_ (List.pairwise_map.mp hkeys)
    rintro p q hne s hs t ht rfl
    exact hne ((nameIn?_eq_some_iff.mp hs).trans (nameIn?_eq_some_iff.mp ht).symm)
  refine hsorted.imp₂ (fun s t hbefore hne => ?_) hnodup
  exact ((isWordBefore_toList_iff s t).mp hbefore).resolve_left hne

theorem names_eq (hperm : (d.entries.filterMap fun p => nameIn? l p.1).Perm names)
    (hsorted : names.Pairwise fun s t => isWordBefore s.toList t.toList = true) : d.names l = names := by
  refine List.Perm.eq_of_pairwise ?_
    (List.pairwise_mergeSort isWordBefore_trans isWordBefore_total _) hsorted ((List.mergeSort_perm _ _).trans hperm)
  intro s t _ _ hst hts
  obtain heq | hst := (isWordBefore_toList_iff s t).mp hst
  · exact heq
  · obtain heq | hts := (isWordBefore_toList_iff t s).mp hts
    · exact heq.symm
    · exact absurd (wordBefore_trans hst hts) (wordBefore_irrefl s)

theorem visit_directory (h : d.get? (l ++ [name]) = some .directory) (deeper : Location → List (Location × Entry)) :
    d.visit deeper l name = ([name], .directory) :: (deeper (l ++ [name])).map fun p => (name :: p.1, p.2) := by
  rw [visit, h]

theorem mem_visit_iff {deeper : Location → List (Location × Entry)} :
    (names, e) ∈ d.visit deeper l name ↔ ∃ rest, names = name :: rest ∧
      (rest = [] ∧ d.get? (l ++ [name]) = some e ∨
        d.get? (l ++ [name]) = some .directory ∧ (rest, e) ∈ deeper (l ++ [name])) := by
  rw [visit]
  split
  · next hentry =>
      rw [List.mem_cons, List.mem_map]
      constructor
      · rintro (h | ⟨p, hp, h⟩)
        · cases h
          exact ⟨[], rfl, .inl ⟨rfl, hentry⟩⟩
        · cases h
          exact ⟨p.1, rfl, .inr ⟨hentry, hp⟩⟩
      · rintro ⟨rest, rfl, ⟨rfl, he⟩ | ⟨-, hrest⟩⟩
        · rw [hentry] at he
          cases he
          exact .inl rfl
        · exact .inr ⟨(rest, e), hrest, rfl⟩
  · next e' hne hentry =>
      simp only [hentry, List.mem_singleton, Prod.mk.injEq, Option.some.injEq]
      constructor
      · rintro ⟨rfl, rfl⟩
        exact ⟨[], rfl, .inl ⟨rfl, rfl⟩⟩
      · rintro ⟨rest, rfl, ⟨rfl, rfl⟩ | ⟨rfl, -⟩⟩
        · exact ⟨rfl, rfl⟩
        · exact absurd rfl hne
  · next hentry => simp [hentry]

theorem ne_nil_of_mem_walk {levels : Nat} {p : Location × Entry} (h : p ∈ d.walk levels l) : p.1 ≠ [] := by
  cases levels with
  | zero => cases h
  | succ levels =>
      obtain ⟨name, -, hvisit⟩ := List.mem_flatMap.mp h
      obtain ⟨rest, hcons, -⟩ := mem_visit_iff.mp hvisit
      rw [hcons]
      exact List.cons_ne_nil name rest

theorem pairwise_visit {deeper : Location → List (Location × Entry)} (hne : ∀ l, ∀ p ∈ deeper l, p.1 ≠ [])
    (hdeeper : ∀ l, (deeper l).Pairwise fun a b => Before a.1 b.1) :
    (d.visit deeper l name).Pairwise fun a b => Before a.1 b.1 := by
  rw [visit]
  split
  · rw [List.pairwise_cons, List.pairwise_map]
    refine ⟨?_, (hdeeper _).imp .cons⟩
    intro p hp
    obtain ⟨q, hq, rfl⟩ := List.mem_map.mp hp
    obtain ⟨a, rest, hrest⟩ := List.exists_cons_of_ne_nil (hne _ q hq)
    dsimp only
    rw [hrest]
    exact .cons .nil
  · exact List.pairwise_singleton _ _
  · exact .nil

/-- A walk goes by the order of the ways to what it tells: it takes the names in a directory in their order, and tells
all that is in a directory before the next name. -/
theorem pairwise_walk (hkeys : (d.entries.map (·.1)).Nodup) (levels : Nat) (l : Location) :
    (d.walk levels l).Pairwise fun a b => Before a.1 b.1 := by
  induction levels generalizing l with
  | zero => exact .nil
  | succ levels ih =>
      rw [walk, List.pairwise_flatMap]
      refine ⟨fun name _ => pairwise_visit (fun l p => ne_nil_of_mem_walk) ih, ?_⟩
      refine (pairwise_names hkeys l).imp ?_
      intro s t hbefore a ha b hb
      obtain ⟨rest, hrest, -⟩ := mem_visit_iff.mp ha
      obtain ⟨rest', hrest', -⟩ := mem_visit_iff.mp hb
      rw [hrest, hrest']
      exact .rel hbefore

theorem length_le_depth (h : (l, e) ∈ d.entries) : l.length ≤ d.depth := by
  rw [depth]
  generalize d.entries = entries at h
  induction entries with
  | nil => cases h
  | cons p entries ih =>
      rw [List.foldr_cons]
      obtain rfl | hmem := List.mem_cons.mp h
      · exact Nat.le_max_left _ _
      · exact Nat.le_trans (ih hmem) (Nat.le_max_right _ _)

theorem lookup_eq_some_iff {entries : List (Location × Entry)} (hkeys : (entries.map (·.1)).Nodup) :
    entries.lookup k = some e ↔ (k, e) ∈ entries := by
  induction entries with
  | nil => simp
  | cons p entries ih =>
      obtain ⟨m, old⟩ := p
      simp only [List.map_cons, List.nodup_cons] at hkeys
      by_cases hk : k = m
      · subst hk
        have hnone : (k, e) ∉ entries := fun hmem => hkeys.1 (List.mem_map.mpr ⟨_, hmem, rfl⟩)
        simp [hnone, eq_comm]
      · rw [List.lookup_cons, beq_false_of_ne hk]
        simp [hk, ih hkeys.2]

end Scaffold.Storage.Disk
