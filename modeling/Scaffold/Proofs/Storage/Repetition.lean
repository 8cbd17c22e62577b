import Scaffold.Proofs.Storage.Changes

namespace Scaffold.Storage.Disk

variable {d d' : Disk} {path : String} {l : Location} {c : ByteArray}

inductive Target.IsFilePlace (l : Location) : Target → Prop
  | vacant : IsFilePlace l (.vacant l)
  | file (c : ByteArray) : IsFilePlace l (.found l (.file c))

def IsFree (d : Disk) (l : Location) : Prop := d.get? l = none ∨ ∃ c, d.get? l = some (.file c)

theorem Target.IsFilePlace.isFree {t : Target} (h : t.IsFilePlace l) {p : Purpose} (ht : d.resolve p path = .ok t) :
    d.IsFree l := by
  cases h with
  | vacant => exact .inl (resolve_told ht)
  | file c => exact .inr ⟨c, resolve_told ht⟩

theorem write_eq_ok_iff : d.write path c = .ok d' ↔
    ∃ l t, d.resolve .create path = .ok t ∧ t.IsFilePlace l ∧ d' = d.set l (.file c) := by
  rw [write]
  constructor
  · intro h
    split at h
    · cases h
    · next l old hresolve =>
        cases h
        exact ⟨l, _, hresolve, .file old, rfl⟩
    · cases h
    · next l hresolve =>
        cases h
        exact ⟨l, _, hresolve, .vacant, rfl⟩
  · rintro ⟨l, t, hresolve, ht, rfl⟩
    rw [hresolve]
    cases ht with
    | vacant => rfl
    | file old => rfl

theorem exists_of_write (h : d.write path c = .ok d') : ∃ l t, d.resolve .create path = .ok t ∧
    t.IsFilePlace l ∧ d' = d.set l (.file c) ∧ d'.location? path = some l := by
  obtain ⟨l, t, hresolve, ht, rfl⟩ := write_eq_ok_iff.mp h
  have hset : d.Replaces l c (d.set l (.file c)) := replaces_set (ht.isFree hresolve)
  have hfile : Disk.get? (d.set l (.file c)) l = some (.file c) := by rw [hset.entry, if_pos rfl]
  have hbecomes : t.Becomes (d.set l (.file c)) (.found l (.file c)) := by
    cases ht with
    | vacant => exact .filled hfile
    | file old => exact .file hfile
  exact ⟨l, t, hresolve, ht, rfl, location?_eq_some (resolve_extends hset.extends (by simp) hbecomes (by simp) hresolve)⟩

section

variable {slashed : Bool} {names : List String} {k : Location}

theorem Proper.create {name : String} {rest : List String} {p : Purpose} (h : Proper p slashed name rest)
    (hslashed : slashed = false) : Proper .create slashed name rest :=
  ⟨h.ne_current, h.ne_parent, h.size_le, fun _ _ => hslashed⟩

theorem Reaches.create (h : Reaches d .inspect slashed l names (.arrived (.found k (.file c)))) :
    slashed = false ∧ Reaches d .create slashed l names (.arrived (.found k (.file c))) := by
  generalize hr : Progress.arrived (.found k (.file c)) = r at h
  induction h with
  | current _ ih => exact ⟨(ih hr).1, .current (ih hr).2⟩
  | parent _ ih => exact ⟨(ih hr).1, .parent (ih hr).2⟩
  | enter hname hentry _ ih =>
      obtain ⟨hslashed, hreach⟩ := ih hr
      exact ⟨hslashed, .enter (hname.create hslashed) hentry hreach⟩
  | file hname hentry hslashed =>
      exact ⟨hslashed rfl, .file (hname.create (hslashed rfl)) hentry (by simp)⟩
  | here | vacant | link | diverted => cases hr

theorem Reaches.create_diverted {base : Location} {target : String} {rest : List String} (hslashed : slashed = false)
    (h : Reaches d .inspect slashed l names (.diverted base target rest)) :
    Reaches d .create slashed l names (.diverted base target rest) := by
  generalize hr : Progress.diverted base target rest = r at h
  induction h with
  | current _ ih => exact .current (ih hr)
  | parent _ ih => exact .parent (ih hr)
  | enter hname hentry _ ih =>
      exact .enter (hname.create hslashed) hentry (ih hr)
  | diverted hname hentry _ =>
      exact .diverted (hname.create hslashed) hentry (by simp)
  | here | vacant | file | link => cases hr

theorem Leads.create {links : Nat} (h : Leads d .inspect links slashed l names (.found k (.file c))) :
    slashed = false ∧ Leads d .create links slashed l names (.found k (.file c)) := by
  generalize ht : Target.found k (.file c) = t at h
  induction h with
  | arrived hreach =>
      subst ht
      exact ⟨hreach.create.1, .arrived hreach.create.2⟩
  | diverted hreach _ ih =>
      obtain ⟨hslashed, hleads⟩ := ih ht
      have hfalse := (Bool.or_eq_false_iff.mp hslashed).1
      exact ⟨hfalse, .diverted (hreach.create_diverted hfalse) hleads⟩

end

theorem resolve_create (h : d.resolve .inspect path = .ok (.found l (.file c))) :
    d.resolve .create path = .ok (.found l (.file c)) := by
  obtain ⟨hpath, hleads⟩ := resolve_eq_ok_iff.mp h
  exact resolve_eq_ok_iff.mpr ⟨hpath, hleads.create.2⟩

theorem setEntry_self {e : Entry} {entries : List (Location × Entry)} (h : entries.lookup l = some e) :
    setEntry l e entries = entries := by
  induction entries with
  | nil => cases h
  | cons p entries ih =>
      obtain ⟨k, old⟩ := p
      rw [lookup_cons_ite] at h
      rw [setEntry]
      by_cases hk : k = l
      · rw [if_pos hk.symm] at h
        rw [if_pos hk, Option.some.inj h]
      · rw [if_neg (Ne.symm hk)] at h
        rw [if_neg hk, ih h]

theorem set_self {e : Entry} (hl : l ≠ []) (h : d.get? l = some e) : d.set l e = d := by
  rw [get?, if_neg (by simpa using hl)] at h
  rw [set, setEntry_self h]

/-- A file that holds something already can be written with it, and nothing changes. -/
theorem write_same (h : d.read path = .ok c) : d.write path c = .ok d := by
  obtain ⟨l, hl⟩ := read_eq_ok_iff.mp h
  have hentry : d.get? l = some (.file c) := resolve_told hl
  have hne : l ≠ [] := ne_nil_of_ne_directory hentry (by simp)
  exact write_eq_ok_iff.mpr ⟨l, _, resolve_create hl, .file c, (set_self hne hentry).symm⟩

theorem isDirectory_iff : d.isDirectory path = true ↔ ∃ l, d.resolve .inspect path = .ok (.found l .directory) := by
  refine ⟨exists_of_isDirectory, ?_⟩
  rintro ⟨l, h⟩
  rw [isDirectory, h]

theorem makeDir_isDirectory (h : d.makeDir path = .ok d') : d'.isDirectory path = true := by
  have hcases := h
  rw [makeDir] at hcases
  split at hcases
  · cases hcases
  · cases hcases
  · next l hresolve =>
      cases hcases
      have hnone : d.get? l = none := resolve_told hresolve
      have hnew : Disk.get? (d.set l .directory) l ≠ none := by
        simp [get?_set (ne_nil_of_ne_directory hnone (by simp))]
      exact isDirectory_iff.mpr ⟨l, makeDir_made h hnone hnew⟩

theorem settle_ok (h : d.settle path (d.makeDir path) = (d', .ok ())) : d'.isDirectory path = true := by
  cases hmade : d.makeDir path with
  | ok made =>
      rw [hmade] at h
      obtain rfl : made = d' := congrArg Prod.fst h
      exact makeDir_isDirectory hmade
  | error fault =>
      rw [hmade, settle, Prod.mk.injEq] at h
      obtain ⟨rfl, hresult⟩ := h
      by_cases hdirectory : d.isDirectory path = true
      · exact hdirectory
      · rw [if_neg hdirectory] at hresult
        cases hresult

/-- A directory that could be made is there; the empty path is taken for one that needs not be made. -/
theorem makeDirsFrom_ok {fuel : Nat} (h : makeDirsFrom fuel path d = (d', .ok ())) :
    path = "" ∨ d'.isDirectory path = true := by
  cases fuel with
  | zero => exact .inr (settle_ok h)
  | succ fuel =>
      rw [makeDirsFrom] at h
      split at h
      · next hpath => exact .inl hpath
      · right
        split at h
        · split at h
          · exact settle_ok h
          · next hfailed => exact absurd h (hfailed d')
        · exact settle_ok h

section

variable {slashed : Bool} {names : List String} {k : Location}

theorem Proper.entry {name : String} {rest : List String} {p : Purpose} (h : Proper p slashed name rest) :
    Proper .entry slashed name rest :=
  ⟨h.ne_current, h.ne_parent, h.size_le, fun hp => by cases hp⟩

theorem Reaches.entry (h : Reaches d .inspect slashed l names (.arrived (.found k .directory))) :
    Reaches d .entry slashed l names (.arrived (.found k .directory)) := by
  generalize hr : Progress.arrived (.found k .directory) = r at h
  induction h with
  | here =>
      cases hr
      exact .here _
  | current _ ih => exact .current (ih hr)
  | parent _ ih => exact .parent (ih hr)
  | enter hname hentry _ ih => exact .enter hname.entry hentry (ih hr)
  | vacant | file | link | diverted => cases hr

/-- A link at the end of a way is followed, or it is the entry that was looked for. -/
theorem Reaches.entry_diverted {base : Location} {target : String} {rest : List String}
    (h : Reaches d .inspect slashed l names (.diverted base target rest)) :
    Reaches d .entry slashed l names (.diverted base target rest) ∨
      ∃ k, Reaches d .entry slashed l names (.arrived (.found k (.link target))) := by
  generalize hr : Progress.diverted base target rest = r at h
  induction h with
  | current _ ih => exact (ih hr).imp .current fun ⟨k, hk⟩ => ⟨k, .current hk⟩
  | parent _ ih => exact (ih hr).imp .parent fun ⟨k, hk⟩ => ⟨k, .parent hk⟩
  | enter hname hentry _ ih =>
      exact (ih hr).imp (.enter hname.entry hentry) fun ⟨k, hk⟩ => ⟨k, .enter hname.entry hentry hk⟩
  | @diverted l name target rest hname hentry _ =>
      cases hr
      by_cases hrest : rest = []
      · subst hrest
        exact .inr ⟨_, .link hname.entry hentry rfl⟩
      · exact .inl (.diverted hname.entry hentry fun _ => hrest)
  | here | vacant | file | link => cases hr

theorem Leads.entry {links : Nat} (h : Leads d .inspect links slashed l names (.found k .directory)) :
    ∃ k e, Leads d .entry links slashed l names (.found k e) := by
  generalize ht : Target.found k .directory = t at h
  induction h with
  | arrived hreach =>
      subst ht
      exact ⟨_, _, .arrived hreach.entry⟩
  | diverted hreach _ ih =>
      obtain hentry | ⟨k, hentry⟩ := hreach.entry_diverted
      · obtain ⟨k, e, hleads⟩ := ih ht
        exact ⟨k, e, .diverted hentry hleads⟩
      · exact ⟨k, _, .arrived hentry⟩

end

theorem makeDir_of_isDirectory (h : d.isDirectory path = true) : d.makeDir path = .error .alreadyExists := by
  obtain ⟨l, hl⟩ := exists_of_isDirectory h
  obtain ⟨hpath, hleads⟩ := resolve_eq_ok_iff.mp hl
  obtain ⟨k, e, hentry⟩ := hleads.entry
  rw [makeDir, resolve_eq_ok_iff.mpr ⟨hpath, hentry⟩]

/-- A directory that is there already needs not be made, and nothing changes. -/
theorem makeDirs_same (h : path = "" ∨ d.isDirectory path = true) : d.makeDirs path = (d, .ok ()) := by
  rw [makeDirs, makeDirsFrom]
  by_cases hpath : path = ""
  · rw [if_pos hpath]
  · have hdirectory := h.resolve_left hpath
    rw [if_neg hpath, makeDir_of_isDirectory hdirectory]
    simp only [settle, hdirectory, if_true]

end Scaffold.Storage.Disk
