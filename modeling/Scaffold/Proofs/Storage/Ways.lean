import Mathlib.Tactic.SplitIfs
import Scaffold.Storage.Disk

namespace Scaffold.Storage.Disk

/-- A name that stands for an entry of a directory. A file is not made at a path that ends in a slash. -/
structure Proper (p : Purpose) (slashed : Bool) (name : String) (rest : List String) : Prop where
  ne_current : name ≠ "."
  ne_parent : name ≠ ".."
  size_le : name.utf8ByteSize ≤ nameLimit
  unslashed : p = .create → rest = [] → slashed = false

/-- How far names lead from a directory without links. -/
inductive Reaches (d : Disk) (p : Purpose) (slashed : Bool) : Location → List String → Progress → Prop
  | here (l : Location) : Reaches d p slashed l [] (.arrived (.found l .directory))
  | current {l : Location} {rest : List String} {r : Progress} :
      Reaches d p slashed l rest r → Reaches d p slashed l ("." :: rest) r
  | parent {l : Location} {rest : List String} {r : Progress} :
      Reaches d p slashed l.dropLast rest r → Reaches d p slashed l (".." :: rest) r
  | enter {l : Location} {name : String} {rest : List String} {r : Progress} :
      Proper p slashed name rest → d.get? (l ++ [name]) = some .directory →
      Reaches d p slashed (l ++ [name]) rest r → Reaches d p slashed l (name :: rest) r
  | vacant {l : Location} {name : String} : Proper p slashed name [] → d.get? (l ++ [name]) = none →
      Reaches d p slashed l [name] (.arrived (.vacant (l ++ [name])))
  | file {l : Location} {name : String} {c : ByteArray} : Proper p slashed name [] →
      d.get? (l ++ [name]) = some (.file c) → (p = .inspect → slashed = false) →
      Reaches d p slashed l [name] (.arrived (.found (l ++ [name]) (.file c)))
  | link {l : Location} {name target : String} : Proper p slashed name [] →
      d.get? (l ++ [name]) = some (.link target) → p = .entry →
      Reaches d p slashed l [name] (.arrived (.found (l ++ [name]) (.link target)))
  | diverted {l : Location} {name target : String} {rest : List String} : Proper p slashed name rest →
      d.get? (l ++ [name]) = some (.link target) → (p = .entry → rest ≠ []) →
      Reaches d p slashed l (name :: rest) (.diverted l target rest)

variable {d : Disk} {p : Purpose} {slashed : Bool} {l k : Location} {names : List String}

theorem descend_proper {name : String} {rest : List String} (h : Proper p slashed name rest) :
    d.descend p slashed l (name :: rest) =
      match d.get? (l ++ [name]) with
      | none => if rest.isEmpty then .arrived (.vacant (l ++ [name])) else .failed .notFound
      | some .directory => d.descend p slashed (l ++ [name]) rest
      | some (.file content) =>
        if rest.isEmpty && !(slashed && p = .inspect) then .arrived (.found (l ++ [name]) (.file content))
        else .failed .notDirectory
      | some (.link target) =>
        if rest.isEmpty && p = .entry then .arrived (.found (l ++ [name]) (.link target))
        else .diverted l target rest := by
  have hslash : ¬ (rest.isEmpty && slashed && decide (p = .create)) = true := by
    simp only [Bool.and_eq_true, List.isEmpty_iff, decide_eq_true_eq, not_and]
    rintro ⟨hrest, hslashed⟩ hp
    simp [h.unslashed hp hrest] at hslashed
  rw [descend]
  exact (if_neg h.ne_current).trans ((if_neg h.ne_parent).trans
    ((if_neg (Nat.not_lt.mpr h.size_le)).trans (if_neg hslash)))

theorem Reaches.descend_eq {r : Progress} (h : Reaches d p slashed l names r) :
    d.descend p slashed l names = r := by
  induction h with
  | here l => rfl
  | current _ ih => rw [descend, if_pos rfl, ih]
  | parent _ ih => rw [descend, if_neg (by decide), if_pos rfl, ih]
  | enter hname hentry _ ih => rw [descend_proper hname, hentry, ih]
  | vacant hname hentry => rw [descend_proper hname, hentry]; rfl
  | file hname hentry hslashed =>
      rw [descend_proper hname, hentry]
      cases slashed <;> cases p <;> simp_all
  | link hname hentry hp =>
      rw [descend_proper hname, hentry]
      simp [hp]
  | diverted hname hentry hrest =>
      rw [descend_proper hname, hentry]
      cases p <;> simp_all

theorem reaches_descend (h : ∀ fault, d.descend p slashed l names ≠ .failed fault) :
    Reaches d p slashed l names (d.descend p slashed l names) := by
  induction names generalizing l with
  | nil => exact .here l
  | cons name rest ih =>
      by_cases hcurrent : name = "."
      · subst hcurrent
        have heq : d.descend p slashed l ("." :: rest) = d.descend p slashed l rest := by
          rw [descend, if_pos rfl]
        rw [heq] at h ⊢
        exact .current (ih h)
      by_cases hparent : name = ".."
      · subst hparent
        have heq : d.descend p slashed l (".." :: rest) = d.descend p slashed l.dropLast rest := by
          rw [descend, if_neg (by decide), if_pos rfl]
        rw [heq] at h ⊢
        exact .parent (ih h)
      have hname : Proper p slashed name rest := by
        refine ⟨hcurrent, hparent, Nat.not_lt.mp fun hlong => ?_, fun hp hrest => ?_⟩
        · exact h .nameTooLong (by rw [descend, if_neg hcurrent, if_neg hparent, if_pos hlong])
        · refine Bool.eq_false_iff.mpr fun hslashed => ?_
          by_cases hlong : nameLimit < name.utf8ByteSize
          · exact h .nameTooLong (by rw [descend, if_neg hcurrent, if_neg hparent, if_pos hlong])
          · refine h .isDirectory ?_
            rw [descend, if_neg hcurrent, if_neg hparent, if_neg hlong, if_pos (by simp [hp, hrest, hslashed])]
      rw [descend_proper hname] at h ⊢
      cases hentry : d.get? (l ++ [name]) with
      | none =>
          simp only [hentry] at h ⊢
          split_ifs at h ⊢ with hrest
          · obtain rfl := List.isEmpty_iff.mp hrest
            exact .vacant hname hentry
          · exact absurd rfl (h _)
      | some e =>
          cases e with
          | directory =>
              simp only [hentry] at h ⊢
              exact .enter hname hentry (ih h)
          | file c =>
              simp only [hentry] at h ⊢
              split_ifs at h ⊢ with hrest
              · simp only [Bool.and_eq_true, List.isEmpty_iff, Bool.not_eq_true', Bool.and_eq_false_iff,
                  decide_eq_false_iff_not] at hrest
                obtain ⟨rfl, hslashed⟩ := hrest
                exact .file hname hentry fun hp => hslashed.resolve_right fun hne => hne hp
              · exact absurd rfl (h _)
          | link target =>
              dsimp only
              split_ifs with hrest
              · simp only [Bool.and_eq_true, List.isEmpty_iff, decide_eq_true_eq] at hrest
                obtain ⟨rfl, hp⟩ := hrest
                exact .link hname hentry hp
              · refine .diverted hname hentry fun hp hempty => hrest ?_
                simp [hp, hempty]

/-- Where names lead from a directory, over so many links at most. -/
inductive Leads (d : Disk) (p : Purpose) : Nat → Bool → Location → List String → Target → Prop
  | arrived {links : Nat} {slashed : Bool} {l : Location} {names : List String} {t : Target} :
      Reaches d p slashed l names (.arrived t) → Leads d p links slashed l names t
  | diverted {links : Nat} {slashed : Bool} {l base : Location} {names rest : List String}
      {target : String} {t : Target} : Reaches d p slashed l names (.diverted base target rest) →
      Leads d p links (slashed || (rest.isEmpty && isSlashed target))
        (if Path.isAbsolute target then [] else base) (nameParts target ++ rest) t →
      Leads d p (links + 1) slashed l names t

theorem Leads.follow_eq {links : Nat} {t : Target} (h : Leads d p links slashed l names t) :
    d.follow p links slashed l names = .ok t := by
  induction h with
  | arrived hreach => rw [follow, hreach.descend_eq]
  | diverted hreach _ ih =>
      rw [follow, hreach.descend_eq]
      exact ih

theorem leads_of_follow {links : Nat} {t : Target} (h : d.follow p links slashed l names = .ok t) :
    Leads d p links slashed l names t := by
  induction links generalizing slashed l names with
  | zero =>
      rw [follow] at h
      cases hstep : d.descend p slashed l names with
      | arrived u =>
          simp only [hstep, Except.ok.injEq] at h
          subst h
          exact .arrived (hstep ▸ reaches_descend (by simp [hstep]))
      | failed fault => simp [hstep] at h
      | diverted base target rest => simp [hstep] at h
  | succ links ih =>
      rw [follow] at h
      cases hstep : d.descend p slashed l names with
      | arrived u =>
          simp only [hstep, Except.ok.injEq] at h
          subst h
          exact .arrived (hstep ▸ reaches_descend (by simp [hstep]))
      | failed fault => simp [hstep] at h
      | diverted base target rest =>
          simp only [hstep] at h
          exact .diverted (hstep ▸ reaches_descend (by simp [hstep])) (ih h)

theorem follow_eq_ok_iff {links : Nat} {t : Target} :
    d.follow p links slashed l names = .ok t ↔ Leads d p links slashed l names t :=
  ⟨leads_of_follow, Leads.follow_eq⟩

structure Admissible (path : String) : Prop where
  no_null : path.toList.contains '\x00' = false
  ne_empty : path ≠ ""
  size_lt : path.utf8ByteSize < pathLimit

def startOf (path : String) (d : Disk) : Location := if Path.isAbsolute path then [] else d.here

theorem resolve_eq_ok_iff {path : String} {t : Target} :
    d.resolve p path = .ok t ↔ Admissible path ∧
      Leads d p linkLimit (isSlashed path) (d.startOf path) (nameParts path) t := by
  rw [resolve]
  by_cases hnull : path.toList.contains '\x00' = true
  · rw [if_pos hnull]
    exact ⟨fun h => (by cases h), fun h => absurd hnull (Bool.eq_false_iff.mp h.1.no_null)⟩
  rw [if_neg hnull]
  by_cases hempty : path = ""
  · rw [if_pos hempty]
    exact ⟨fun h => (by cases h), fun h => absurd hempty h.1.ne_empty⟩
  rw [if_neg hempty]
  by_cases hlong : pathLimit ≤ path.utf8ByteSize
  · rw [if_pos hlong]
    exact ⟨fun h => (by cases h), fun h => absurd h.1.size_lt (Nat.not_lt.mpr hlong)⟩
  rw [if_neg hlong, follow_eq_ok_iff]
  have hpath : Admissible path := ⟨Bool.eq_false_iff.mpr hnull, hempty, Nat.not_le.mp hlong⟩
  exact ⟨fun h => ⟨hpath, h⟩, fun h => h.2⟩

end Scaffold.Storage.Disk
