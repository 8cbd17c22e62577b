import Scaffold.Proofs.Storage.Ways

namespace Scaffold.Storage.Disk

variable {d d' d'' : Disk}

@[simp] theorem get?_nil (d : Disk) : d.get? [] = some .directory := rfl

theorem ne_nil_of_ne_directory {l : Location} {e : Option Entry} (h : d.get? l = e)
    (he : e ≠ some .directory) : l ≠ [] := by
  rintro rfl
  exact he h.symm

theorem lookup_cons_ite (k m : Location) (e : Entry) (entries : List (Location × Entry)) :
    ((m, e) :: entries).lookup k = if k = m then some e else entries.lookup k := by
  by_cases h : k = m
  · simp [h]
  · rw [List.lookup_cons, beq_false_of_ne h, if_neg h]

theorem lookup_setEntry (l k : Location) (e : Entry) (entries : List (Location × Entry)) :
    (setEntry l e entries).lookup k = if k = l then some e else entries.lookup k := by
  induction entries with
  | nil => exact lookup_cons_ite k l e []
  | cons p entries ih =>
      obtain ⟨m, old⟩ := p
      rw [setEntry]
      split_ifs with hm hk hk
      · rw [lookup_cons_ite, if_pos (hk.trans hm.symm)]
      · rw [lookup_cons_ite, lookup_cons_ite, hm, if_neg hk, if_neg hk]
      · rw [lookup_cons_ite, ih, if_pos hk, if_neg fun h => hm (h.symm.trans hk)]
      · rw [lookup_cons_ite, lookup_cons_ite, ih, if_neg hk]

theorem get?_set {l : Location} (hl : l ≠ []) (e : Entry) (d : Disk) (k : Location) :
    Disk.get? (d.set l e) k = if k = l then some e else d.get? k := by
  by_cases hk : k = []
  · subst hk
    rw [if_neg (Ne.symm hl)]
    rfl
  · simp [get?, hk, set, lookup_setEntry]

/-- Whether an entry is as another one, but for the content of a file. -/
def Entry.Like : Entry → Entry → Prop
  | .directory, .directory => True
  | .file _, .file _ => True
  | .link t, .link u => t = u
  | _, _ => False

/-- What is on one disk is on another one too. -/
structure Extends (d d' : Disk) : Prop where
  here_eq : d'.here = d.here
  entry : ∀ l e, d.get? l = some e → ∃ e', d'.get? l = some e' ∧ Entry.Like e e'

namespace Extends

theorem directory (h : d.Extends d') {l : Location} (hl : d.get? l = some .directory) :
    d'.get? l = some .directory := by
  obtain ⟨e, he, hlike⟩ := h.entry l _ hl
  cases e with
  | directory => exact he
  | file | link => exact hlike.elim

theorem link (h : d.Extends d') {l : Location} {t : String} (hl : d.get? l = some (.link t)) :
    d'.get? l = some (.link t) := by
  obtain ⟨e, he, hlike⟩ := h.entry l _ hl
  cases e with
  | link u =>
      obtain rfl : t = u := hlike
      exact he
  | directory | file => exact hlike.elim

theorem file (h : d.Extends d') {l : Location} {c : ByteArray} (hl : d.get? l = some (.file c)) :
    ∃ c', d'.get? l = some (.file c') := by
  obtain ⟨e, he, hlike⟩ := h.entry l _ hl
  cases e with
  | file c' => exact ⟨c', he⟩
  | directory | link => exact hlike.elim

theorem refl (d : Disk) : d.Extends d := by
  refine ⟨rfl, fun l e he => ⟨e, he, ?_⟩⟩
  cases e <;> trivial

theorem trans (h : d.Extends d') (h' : d'.Extends d'') : d.Extends d'' := by
  refine ⟨h'.here_eq.trans h.here_eq, fun l e he => ?_⟩
  cases e with
  | directory => exact ⟨_, h'.directory (h.directory he), trivial⟩
  | file c =>
      obtain ⟨c', hc'⟩ := h.file he
      obtain ⟨c'', hc''⟩ := h'.file hc'
      exact ⟨_, hc'', trivial⟩
  | link t => exact ⟨_, h'.link (h.link he), rfl⟩

end Extends

/-- What becomes of a target on another disk: a file may have another content, and a file may have come
where there was none. -/
inductive Target.Becomes (d' : Disk) : Target → Target → Prop
  | directory (l : Location) : Becomes d' (.found l .directory) (.found l .directory)
  | file {l : Location} {c c' : ByteArray} (h : d'.get? l = some (.file c')) :
      Becomes d' (.found l (.file c)) (.found l (.file c'))
  | filled {l : Location} {c : ByteArray} (h : d'.get? l = some (.file c)) :
      Becomes d' (.vacant l) (.found l (.file c))

section

variable {p : Purpose} {slashed : Bool} {l : Location} {names : List String} {t t' : Target}

theorem Proper.inspect {name : String} {rest : List String} (h : Proper p slashed name rest) :
    Proper .inspect slashed name rest :=
  ⟨h.ne_current, h.ne_parent, h.size_le, fun hp => by cases hp⟩

/-- A way without links leads on a larger disk where it led before. What was looked up for a file to be
made is found when the file is there. -/
theorem Reaches.extends_arrived (hext : d.Extends d') (hp : p ≠ .entry) (hbecomes : t.Becomes d' t')
    (hfound : p = .inspect → ∀ k, t ≠ .vacant k) (h : Reaches d p slashed l names (.arrived t)) :
    Reaches d' .inspect slashed l names (.arrived t') := by
  generalize hr : Progress.arrived t = r at h
  induction h with
  | here l =>
      cases hr
      cases hbecomes
      exact .here l
  | current _ ih => exact .current (ih hr)
  | parent _ ih => exact .parent (ih hr)
  | enter hname hentry _ ih => exact .enter hname.inspect (hext.directory hentry) (ih hr)
  | vacant hname hentry =>
      cases hr
      cases hbecomes with
      | filled hfile =>
          refine .file hname.inspect hfile fun _ => ?_
          cases p with
          | inspect => exact absurd rfl (hfound rfl _)
          | create => exact hname.unslashed rfl rfl
          | entry => exact absurd rfl hp
  | file hname hentry hslashed =>
      cases hr
      cases hbecomes with
      | file hfile =>
          refine .file hname.inspect hfile fun _ => ?_
          cases p with
          | inspect => exact hslashed rfl
          | create => exact hname.unslashed rfl rfl
          | entry => exact absurd rfl hp
  | link _ _ hentry => exact absurd hentry hp
  | diverted => cases hr

theorem Reaches.extends_diverted (hext : d.Extends d') {base : Location} {target : String}
    {rest : List String} (h : Reaches d p slashed l names (.diverted base target rest)) :
    Reaches d' .inspect slashed l names (.diverted base target rest) := by
  generalize hr : Progress.diverted base target rest = r at h
  induction h with
  | here | vacant | file | link => cases hr
  | current _ ih => exact .current (ih hr)
  | parent _ ih => exact .parent (ih hr)
  | enter hname hentry _ ih => exact .enter hname.inspect (hext.directory hentry) (ih hr)
  | diverted hname hentry _ =>
      cases hr
      exact .diverted hname.inspect (hext.link hentry) fun hp => by cases hp

theorem Leads.extends (hext : d.Extends d') (hp : p ≠ .entry) (hbecomes : t.Becomes d' t')
    (hfound : p = .inspect → ∀ k, t ≠ .vacant k) {links : Nat} (h : Leads d p links slashed l names t) :
    Leads d' .inspect links slashed l names t' := by
  induction h with
  | arrived hreach => exact .arrived (hreach.extends_arrived hext hp hbecomes hfound)
  | diverted hreach _ ih => exact .diverted (hreach.extends_diverted hext) (ih hbecomes hfound)

end

theorem resolve_extends {p : Purpose} {path : String} {t t' : Target} (hext : d.Extends d')
    (hp : p ≠ .entry) (hbecomes : t.Becomes d' t') (hfound : p = .inspect → ∀ k, t ≠ .vacant k)
    (h : d.resolve p path = .ok t) : d'.resolve .inspect path = .ok t' := by
  rw [resolve_eq_ok_iff] at h ⊢
  rw [startOf, hext.here_eq]
  exact ⟨h.1, h.2.extends hext hp hbecomes hfound⟩

def Target.Told (d : Disk) : Target → Prop
  | .found _ .directory => True
  | .found l e => d.get? l = some e
  | .vacant l => d.get? l = none

theorem Leads.told {p : Purpose} {links : Nat} {slashed : Bool} {l : Location} {names : List String}
    {t : Target} (h : Leads d p links slashed l names t) : t.Told d := by
  induction h with
  | @arrived links slashed l names t hreach =>
      generalize hr : Progress.arrived t = r at hreach
      induction hreach with
      | here l =>
          cases hr
          trivial
      | current _ ih => exact ih hr
      | parent _ ih => exact ih hr
      | enter _ _ _ ih => exact ih hr
      | vacant _ hentry =>
          cases hr
          exact hentry
      | file _ hentry _ =>
          cases hr
          exact hentry
      | link _ hentry _ =>
          cases hr
          exact hentry
      | diverted => cases hr
  | diverted _ _ ih => exact ih

theorem resolve_told {p : Purpose} {path : String} {t : Target} (h : d.resolve p path = .ok t) :
    t.Told d :=
  (resolve_eq_ok_iff.mp h).2.told

theorem read_eq_ok_iff {path : String} {c : ByteArray} :
    d.read path = .ok c ↔ ∃ l, d.resolve .inspect path = .ok (.found l (.file c)) := by
  rw [read]
  constructor
  · intro h
    split at h
    · cases h
    · next l content hresolve =>
        cases h
        exact ⟨l, hresolve⟩
    · cases h
    · cases h
  · rintro ⟨l, hresolve⟩
    rw [hresolve]

def location? (path : String) (d : Disk) : Option Location :=
  match d.resolve .inspect path with
  | .ok (.found l _) => some l
  | _ => none

theorem location?_eq_some_iff {path : String} {l : Location} :
    d.location? path = some l ↔ ∃ e, d.resolve .inspect path = .ok (.found l e) := by
  rw [location?]
  cases d.resolve .inspect path with
  | error fault => simp
  | ok t => cases t <;> simp

theorem location?_eq_some {path : String} {l : Location} {e : Entry}
    (h : d.resolve .inspect path = .ok (.found l e)) : d.location? path = some l :=
  location?_eq_some_iff.mpr ⟨e, h⟩

def textOf (l : Location) : String := "/" ++ Text.joinWith "/" l

theorem realPath?_eq_map (path : String) (d : Disk) : d.realPath? path = (d.location? path).map textOf := by
  rw [realPath?, location?]
  cases d.resolve .inspect path with
  | error fault => rfl
  | ok t => cases t <;> rfl

theorem exists_of_isDirectory {path : String} (h : d.isDirectory path = true) :
    ∃ l, d.resolve .inspect path = .ok (.found l .directory) := by
  rw [isDirectory] at h
  split at h
  · next l hresolve => exact ⟨l, hresolve⟩
  · cases h

theorem Extends.resolve_file (h : d.Extends d') {path : String} {l : Location} {c : ByteArray}
    (hfile : d.resolve .inspect path = .ok (.found l (.file c))) :
    ∃ c', d'.get? l = some (.file c') ∧ d'.resolve .inspect path = .ok (.found l (.file c')) := by
  obtain ⟨c', hc'⟩ := h.file (resolve_told hfile)
  exact ⟨c', hc', resolve_extends h (by simp) (.file hc') (by simp) hfile⟩

structure Replaces (d : Disk) (l : Location) (c : ByteArray) (d' : Disk) : Prop where
  here_eq : d'.here = d.here
  before : d.get? l = none ∨ ∃ old, d.get? l = some (.file old)
  entry : ∀ k, d'.get? k = if k = l then some (.file c) else d.get? k

theorem Replaces.extends {l : Location} {c : ByteArray} (h : d.Replaces l c d') : d.Extends d' := by
  refine ⟨h.here_eq, fun k e he => ?_⟩
  rw [h.entry]
  by_cases hk : k = l
  · subst hk
    obtain hnone | ⟨old, hfile⟩ := h.before
    · simp [hnone] at he
    · obtain rfl : Entry.file old = e := by simpa [hfile] using he
      exact ⟨_, if_pos rfl, trivial⟩
  · rw [if_neg hk, he]
    exact ⟨e, rfl, by cases e <;> trivial⟩

theorem replaces_set {l : Location} {c : ByteArray}
    (h : d.get? l = none ∨ ∃ old, d.get? l = some (.file old)) : d.Replaces l c (d.set l (.file c)) := by
  have hl : l ≠ [] := by
    rintro rfl
    simp at h
  exact ⟨rfl, h, get?_set hl _ d⟩

/-- What is written to a path is there, and only there is something else than before. -/
theorem write_replaces {path : String} {c : ByteArray} (h : d.write path c = .ok d') :
    ∃ l, d.Replaces l c d' ∧ d'.resolve .inspect path = .ok (.found l (.file c)) := by
  rw [write] at h
  split at h
  · cases h
  · next l old hresolve =>
      cases h
      have hd : d.Replaces l c (d.set l (.file c)) := replaces_set (.inr ⟨old, resolve_told hresolve⟩)
      refine ⟨l, hd, resolve_extends hd.extends (by simp) (.file ?_) (by simp) hresolve⟩
      rw [hd.entry, if_pos rfl]
  · cases h
  · next l hresolve =>
      cases h
      have hd : d.Replaces l c (d.set l (.file c)) := replaces_set (.inl (resolve_told hresolve))
      refine ⟨l, hd, resolve_extends hd.extends (by simp) (.filled ?_) (by simp) hresolve⟩
      rw [hd.entry, if_pos rfl]

theorem write_replaces_file {path : String} {l : Location} {old c : ByteArray}
    (hfile : d.resolve .inspect path = .ok (.found l (.file old))) (h : d.write path c = .ok d') :
    d.Replaces l c d' ∧ d'.resolve .inspect path = .ok (.found l (.file c)) := by
  obtain ⟨k, hreplaces, hwritten⟩ := write_replaces h
  obtain ⟨c', -, hkept⟩ := hreplaces.extends.resolve_file hfile
  rw [hwritten] at hkept
  obtain ⟨rfl, -⟩ := Target.found.inj (Except.ok.inj hkept)
  exact ⟨hreplaces, hwritten⟩

structure AddsDirectories (d d' : Disk) : Prop where
  here_eq : d'.here = d.here
  entry : ∀ l, d'.get? l = d.get? l ∨ d.get? l = none ∧ d'.get? l = some .directory

namespace AddsDirectories

theorem refl (d : Disk) : d.AddsDirectories d := ⟨rfl, fun _ => .inl rfl⟩

theorem trans (h : d.AddsDirectories d') (h' : d'.AddsDirectories d'') : d.AddsDirectories d'' := by
  refine ⟨h'.here_eq.trans h.here_eq, fun l => ?_⟩
  obtain hl | ⟨hnone, hdirectory⟩ := h.entry l
  · rw [← hl]
    exact h'.entry l
  · obtain hl' | ⟨hnone', _⟩ := h'.entry l
    · exact .inr ⟨hnone, hl'.trans hdirectory⟩
    · simp [hdirectory] at hnone'

end AddsDirectories

theorem AddsDirectories.extends (h : d.AddsDirectories d') : d.Extends d' := by
  refine ⟨h.here_eq, fun l e he => ?_⟩
  obtain hl | ⟨hnone, _⟩ := h.entry l
  · exact ⟨e, hl.trans he, by cases e <;> trivial⟩
  · simp [he] at hnone

theorem makeDir_addsDirectories {path : String} (h : d.makeDir path = .ok d') : d.AddsDirectories d' := by
  rw [makeDir] at h
  split at h
  · cases h
  · cases h
  · next l hresolve =>
      cases h
      have hnone : d.get? l = none := resolve_told hresolve
      have hl : l ≠ [] := ne_nil_of_ne_directory hnone (by simp)
      refine ⟨rfl, fun k => ?_⟩
      rw [get?_set hl]
      by_cases hk : k = l
      · exact .inr ⟨hk ▸ hnone, if_pos hk⟩
      · exact .inl (if_neg hk)

theorem settle_addsDirectories {path : String} :
    d.AddsDirectories (d.settle path (d.makeDir path)).1 := by
  cases hmade : d.makeDir path with
  | ok d' => exact makeDir_addsDirectories hmade
  | error fault => exact .refl d

theorem makeDirsFrom_addsDirectories (fuel : Nat) (path : String) (d : Disk) :
    d.AddsDirectories (makeDirsFrom fuel path d).1 := by
  induction fuel generalizing path d with
  | zero => exact settle_addsDirectories
  | succ fuel ih =>
      -- what a failed attempt at a parent made stays, so the disk is compared in every branch
      rw [makeDirsFrom]
      split
      · exact .refl d
      · split
        · next parent _ _ =>
            have hparent := ih parent d
            split
            · next d' hmade =>
                rw [hmade] at hparent
                exact hparent.trans settle_addsDirectories
            · exact hparent
        · exact settle_addsDirectories

theorem makeDirs_addsDirectories (path : String) (d : Disk) : d.AddsDirectories (d.makeDirs path).1 :=
  makeDirsFrom_addsDirectories _ path d

theorem read_written {path : String} {c : ByteArray} (h : d.write path c = .ok d') : d'.read path = .ok c := by
  obtain ⟨l, -, hl⟩ := write_replaces h
  exact read_eq_ok_iff.mpr ⟨l, hl⟩

section

variable {first second : String} {a b : ByteArray} {made between : Disk}

theorem read_first_of_two (hfirst : made.write first a = .ok between)
    (hsecond : between.write second b = .ok d') (hapart : d'.location? first ≠ d'.location? second) :
    d'.read first = .ok a := by
  obtain ⟨l, hbetween, hl⟩ := write_replaces hfirst
  obtain ⟨k, hd', hk⟩ := write_replaces hsecond
  obtain ⟨c, hc, hl'⟩ := hd'.extends.resolve_file hl
  rw [location?_eq_some hl', location?_eq_some hk] at hapart
  rw [hd'.entry, if_neg fun heq => hapart (congrArg some heq), hbetween.entry, if_pos rfl] at hc
  obtain rfl : a = c := by simpa using hc
  exact read_eq_ok_iff.mpr ⟨l, hl'⟩

theorem get?_of_two (hmade : d.AddsDirectories made) (hfirst : made.write first a = .ok between)
    (hsecond : between.write second b = .ok d') (l : Location)
    (hl : some l ∉ [d'.location? first, d'.location? second]) :
    d'.get? l = d.get? l ∨ d.get? l = none ∧ d'.get? l = some .directory := by
  obtain ⟨m, hbetween, hm⟩ := write_replaces hfirst
  obtain ⟨k, hd', hk⟩ := write_replaces hsecond
  obtain ⟨c, -, hm'⟩ := hd'.extends.resolve_file hm
  rw [location?_eq_some hm', location?_eq_some hk] at hl
  simp only [List.mem_cons, Option.some.injEq, List.not_mem_nil, or_false, not_or] at hl
  rw [hd'.entry, if_neg hl.2, hbetween.entry, if_neg hl.1]
  exact hmade.entry l

theorem read_of_two (hmade : d.AddsDirectories made) (hfirst : made.write first a = .ok between)
    (hsecond : between.write second b = .ok d') {path : String} {c : ByteArray} (hread : d.read path = .ok c)
    (hapart : d'.location? path ∉ [d'.location? first, d'.location? second]) : d'.read path = .ok c := by
  obtain ⟨l, hl⟩ := read_eq_ok_iff.mp hread
  obtain ⟨m, hbetween, -⟩ := write_replaces hfirst
  obtain ⟨k, hd', -⟩ := write_replaces hsecond
  -- the path still leads to where it led at first, so that only the content there is in question
  have hextends := (hmade.extends.trans hbetween.extends).trans hd'.extends
  obtain ⟨c', hc', hl'⟩ := hextends.resolve_file hl
  rw [location?_eq_some hl'] at hapart
  have hc : d.get? l = some (.file c) := resolve_told hl
  obtain hsame | ⟨hnone, -⟩ := get?_of_two hmade hfirst hsecond l hapart
  · obtain rfl : c' = c := by simpa [hc, hc'] using hsame
    exact read_eq_ok_iff.mpr ⟨l, hl'⟩
  · simp [hc] at hnone

end

end Scaffold.Storage.Disk
