import Scaffold.Proofs.Storage.Repetition

namespace Scaffold.Storage.Disk

variable {d d' e made : Disk} {path : String} {l : Location} {places : List Location} {c : ByteArray}

/-- A disk is as another one but for some places, where it has files of any content or none. -/
structure VariesAt (places : List Location) (d e : Disk) : Prop where
  here_eq : e.here = d.here
  entry : ∀ l, l ∉ places → e.get? l = d.get? l
  free : ∀ l ∈ places, e.IsFree l

theorem IsFree.ne_directory (h : d.IsFree l) : d.get? l ≠ some .directory := by
  obtain h | ⟨c, h⟩ := h <;> simp [h]

theorem IsFree.ne_link (h : d.IsFree l) {t : String} : d.get? l ≠ some (.link t) := by
  obtain h | ⟨c, h⟩ := h <;> simp [h]

theorem IsFree.ne_nil (h : d.IsFree l) : l ≠ [] := by
  rintro rfl
  exact h.ne_directory rfl

theorem IsFree.reaches {slashed : Bool} {name : String} (h : d.IsFree (l ++ [name]))
    (hname : Proper .create slashed name []) :
    ∃ t, t.IsFilePlace (l ++ [name]) ∧ Reaches d .create slashed l [name] (.arrived t) := by
  obtain hnone | ⟨c, hfile⟩ := h
  · exact ⟨_, .vacant, .vacant hname hnone⟩
  · exact ⟨_, .file c, .file hname hfile (by simp)⟩

theorem AddsDirectories.isFree (hadds : d.AddsDirectories made) (h : made.IsFree l) : d.IsFree l := by
  obtain hsame | ⟨-, hnew⟩ := hadds.entry l
  · rwa [IsFree, ← hsame]
  · exact absurd hnew h.ne_directory

theorem Replaces.isFree_before {k : Location} (hreplaces : d.Replaces k c d') (h : d'.IsFree l) : d.IsFree l := by
  by_cases hl : l = k
  · exact hl ▸ hreplaces.before
  · rwa [IsFree, hreplaces.entry, if_neg hl] at h

namespace VariesAt

section

variable {slashed : Bool} {names : List String}

/-- The way to a directory passes by no place where a file may be. So its names do the same on both disks, also
before the last of the directories are made. -/
theorem descend_eq (hvaries : d.VariesAt places e) (hadds : d.AddsDirectories made)
    (hfree : ∀ k ∈ places, made.IsFree k) {r : Progress} (h : Reaches made .inspect slashed l names r)
    (hr : ∀ t, r = .arrived t → ∃ k, t = .found k .directory) {p : Purpose} (hp : p ≠ .create) :
    e.descend p slashed l names = d.descend p slashed l names ∧
      ∀ base target rest, d.descend p slashed l names = .diverted base target rest →
        r = .diverted base target rest := by
  have hproper {name : String} {rest : List String} (hname : Proper .inspect slashed name rest) :
      Proper p slashed name rest :=
    ⟨hname.ne_current, hname.ne_parent, hname.size_le, fun h => absurd h hp⟩
  induction h with
  | here l => exact ⟨rfl, by simp [descend]⟩
  | current _ ih =>
      rw [descend, if_pos rfl, descend, if_pos rfl]
      exact ih hr
  | parent _ ih =>
      rw [descend, if_neg (by decide), if_pos rfl, descend, if_neg (by decide), if_pos rfl]
      exact ih hr
  | @enter l name rest r hname hentry _ ih =>
      have hplace : l ++ [name] ∉ places := fun hmem => (hfree _ hmem).ne_directory hentry
      rw [descend_proper (hproper hname), descend_proper (hproper hname), hvaries.entry _ hplace]
      obtain hsame | ⟨hnone, -⟩ := hadds.entry (l ++ [name])
      · rw [← hsame, hentry]
        exact ih hr
      · rw [hnone]
        refine ⟨rfl, fun base target rest' hdiverted => ?_⟩
        dsimp only at hdiverted
        split at hdiverted <;> cases hdiverted
  | @diverted l name target rest hname hentry _ =>
      have hplace : l ++ [name] ∉ places := fun hmem => (hfree _ hmem).ne_link hentry
      rw [descend_proper (hproper hname), descend_proper (hproper hname), hvaries.entry _ hplace]
      obtain hsame | ⟨-, hnew⟩ := hadds.entry (l ++ [name])
      · rw [← hsame, hentry]
        refine ⟨rfl, fun base target' rest' hdiverted => ?_⟩
        dsimp only at hdiverted
        split at hdiverted
        · cases hdiverted
        · exact hdiverted
      · cases hnew.symm.trans hentry
  | vacant | file =>
      obtain ⟨k, hk⟩ := hr _ rfl
      cases hk
  | link _ _ hentry => cases hentry

theorem follow_eq (hvaries : d.VariesAt places e) (hadds : d.AddsDirectories made)
    (hfree : ∀ k ∈ places, made.IsFree k) {links : Nat} {k : Location}
    (h : Leads made .inspect links slashed l names (.found k .directory)) {p : Purpose} (hp : p ≠ .create) :
    e.follow p links slashed l names = d.follow p links slashed l names := by
  generalize ht : Target.found k .directory = t at h
  induction h with
  | arrived hreach =>
      subst ht
      obtain ⟨heq, hdiverted⟩ := hvaries.descend_eq hadds hfree hreach (by simp) hp
      rw [follow, follow, heq]
      split
      · rfl
      · rfl
      · next base target rest hstep => cases hdiverted base target rest hstep
  | diverted hreach _ ih =>
      obtain ⟨heq, hdiverted⟩ := hvaries.descend_eq hadds hfree hreach (by simp) hp
      rw [follow, follow, heq]
      split
      · rfl
      · rfl
      · next base target rest hstep =>
          cases hdiverted base target rest hstep
          exact ih ht

end

theorem resolve_eq (hvaries : d.VariesAt places e) (hadds : d.AddsDirectories made)
    (hfree : ∀ k ∈ places, made.IsFree k) (h : made.isDirectory path = true) {p : Purpose} (hp : p ≠ .create) :
    e.resolve p path = d.resolve p path := by
  obtain ⟨l, hl⟩ := exists_of_isDirectory h
  obtain ⟨-, hleads⟩ := resolve_eq_ok_iff.mp hl
  rw [startOf, hadds.here_eq] at hleads
  rw [resolve, resolve, hvaries.here_eq, hvaries.follow_eq hadds hfree hleads hp]

theorem set_directory (hvaries : d.VariesAt places e) (hne : l ≠ []) (hl : l ∉ places) :
    (d.set l .directory).VariesAt places (e.set l .directory) := by
  refine ⟨hvaries.here_eq, fun k hk => ?_, fun k hk => ?_⟩
  · rw [get?_set hne, get?_set hne, hvaries.entry k hk]
  · have hkl : k ≠ l := by
      rintro rfl
      exact hl hk
    rw [IsFree, get?_set hne, if_neg hkl]
    exact hvaries.free k hk

theorem settle (hvaries : d.VariesAt places e) (h : d.settle path (d.makeDir path) = (made, .ok ()))
    (hfree : ∀ k ∈ places, made.IsFree k) :
    ∃ made', e.settle path (e.makeDir path) = (made', .ok ()) ∧ made.VariesAt places made' := by
  have hdirectory := settle_ok h
  have hadds : d.AddsDirectories made := by
    have hsettled := @settle_addsDirectories d path
    rwa [h] at hsettled
  have hentry := hvaries.resolve_eq hadds hfree hdirectory (p := .entry) (by simp)
  have hinspect := hvaries.resolve_eq hadds hfree hdirectory (p := .inspect) (by simp)
  -- a directory that could not be made is there already, and so it is on the other disk
  have hthere (fault : Fault) (h : d.settle path (.error fault) = (made, .ok ())) :
      ∃ made', e.settle path (.error fault) = (made', .ok ()) ∧ made.VariesAt places made' := by
    obtain rfl : d = made := congrArg Prod.fst h
    have hsame : e.isDirectory path = true := by rwa [isDirectory, hinspect]
    exact ⟨e, by rw [Disk.settle, if_pos hsame], hvaries⟩
  rw [makeDir] at h
  rw [makeDir, hentry]
  cases hresolve : d.resolve .entry path with
  | error fault =>
      rw [hresolve] at h
      exact hthere fault h
  | ok t =>
      rw [hresolve] at h
      cases t with
      | found => exact hthere .alreadyExists h
      | vacant k =>
          obtain rfl : d.set k .directory = made := congrArg Prod.fst h
          have hne : k ≠ [] := ne_nil_of_ne_directory (resolve_told hresolve) (by simp)
          have hmade : Disk.get? (d.set k .directory) k = some .directory := by
            rw [get?_set hne, if_pos rfl]
          exact ⟨_, rfl, hvaries.set_directory hne fun hmem => (hfree k hmem).ne_directory hmade⟩

theorem makeDir_eq_error_iff (h : e.resolve .entry path = d.resolve .entry path) {fault : Fault} :
    e.makeDir path = .error fault ↔ d.makeDir path = .error fault := by
  rw [makeDir, makeDir, h]
  cases d.resolve .entry path with
  | error fault' => simp
  | ok t => cases t <;> simp

/-- The directories that could be made on one disk can be made on the other one. -/
theorem makeDirsFrom {fuel : Nat} (hvaries : d.VariesAt places e)
    (h : Disk.makeDirsFrom fuel path d = (made, .ok ())) (hfree : ∀ k ∈ places, made.IsFree k) :
    ∃ made', Disk.makeDirsFrom fuel path e = (made', .ok ()) ∧ made.VariesAt places made' := by
  induction fuel generalizing path d e made with
  | zero => exact hvaries.settle h hfree
  | succ fuel ih =>
      have hadds := makeDirsFrom_addsDirectories (fuel + 1) path d
      rw [h] at hadds
      have hok := makeDirsFrom_ok h
      rw [Disk.makeDirsFrom] at h ⊢
      by_cases hpath : path = ""
      · rw [if_pos hpath] at h ⊢
        obtain rfl : d = made := congrArg Prod.fst h
        exact ⟨e, rfl, hvaries⟩
      · have hentry := hvaries.resolve_eq hadds hfree (hok.resolve_left hpath) (p := .entry) (by simp)
        rw [if_neg hpath] at h ⊢
        split at h
        · next parent hmissing hparent =>
            rw [(makeDir_eq_error_iff hentry).mpr hmissing, hparent]
            split at h
            · next made₁ hmade₁ =>
                have hadds₁ : made₁.AddsDirectories made := by
                  have hsettled := @settle_addsDirectories made₁ path
                  rwa [h] at hsettled
                obtain ⟨made₂, hmade₂, hvaries₂⟩ := ih hvaries hmade₁ fun k hk => hadds₁.isFree (hfree k hk)
                dsimp only
                rw [hmade₂]
                exact hvaries₂.settle h hfree
            · next hfailed => exact absurd h (hfailed made)
        · next hother =>
            split
            · next parent hmissing hparent =>
                exact absurd hparent (hother parent ((makeDir_eq_error_iff hentry).mp hmissing))
            · exact hvaries.settle h hfree

theorem makeDirs (hvaries : d.VariesAt places e) (h : d.makeDirs path = (made, .ok ()))
    (hfree : ∀ k ∈ places, made.IsFree k) :
    ∃ made', e.makeDirs path = (made', .ok ()) ∧ made.VariesAt places made' :=
  hvaries.makeDirsFrom h hfree

section

variable {slashed : Bool} {names : List String} {k : Location} {t : Target}

theorem isFree (hvaries : d.VariesAt places e) (h : d.IsFree l) : e.IsFree l := by
  by_cases hl : l ∈ places
  · exact hvaries.free l hl
  · rwa [IsFree, hvaries.entry l hl]

theorem reaches (hvaries : d.VariesAt places e) (hfree : ∀ k ∈ places, d.IsFree k) (ht : t.IsFilePlace k)
    (h : Reaches d .create slashed l names (.arrived t)) :
    ∃ t', t'.IsFilePlace k ∧ Reaches e .create slashed l names (.arrived t') := by
  generalize hr : Progress.arrived t = r at h
  induction h with
  | here =>
      cases hr
      cases ht
  | current _ ih =>
      obtain ⟨t', ht', hreach⟩ := ih hr
      exact ⟨t', ht', .current hreach⟩
  | parent _ ih =>
      obtain ⟨t', ht', hreach⟩ := ih hr
      exact ⟨t', ht', .parent hreach⟩
  | enter hname hentry _ ih =>
      obtain ⟨t', ht', hreach⟩ := ih hr
      refine ⟨t', ht', .enter hname ?_ hreach⟩
      rw [hvaries.entry _ fun hmem => (hfree _ hmem).ne_directory hentry, hentry]
  | vacant hname hentry =>
      cases hr
      cases ht
      exact (hvaries.isFree (.inl hentry)).reaches hname
  | file hname hentry _ =>
      cases hr
      cases ht
      exact (hvaries.isFree (.inr ⟨_, hentry⟩)).reaches hname
  | link _ _ hp => cases hp
  | diverted => cases hr

theorem reaches_diverted (hvaries : d.VariesAt places e) (hfree : ∀ k ∈ places, d.IsFree k) {base : Location}
    {target : String} {rest : List String} (h : Reaches d .create slashed l names (.diverted base target rest)) :
    Reaches e .create slashed l names (.diverted base target rest) := by
  generalize hr : Progress.diverted base target rest = r at h
  induction h with
  | current _ ih => exact .current (ih hr)
  | parent _ ih => exact .parent (ih hr)
  | enter hname hentry _ ih =>
      refine .enter hname ?_ (ih hr)
      rw [hvaries.entry _ fun hmem => (hfree _ hmem).ne_directory hentry, hentry]
  | diverted hname hentry hp =>
      refine .diverted hname ?_ hp
      rw [hvaries.entry _ fun hmem => (hfree _ hmem).ne_link hentry, hentry]
  | here | vacant | file | link => cases hr

theorem leads (hvaries : d.VariesAt places e) (hfree : ∀ k ∈ places, d.IsFree k) (ht : t.IsFilePlace k)
    {links : Nat} (h : Leads d .create links slashed l names t) :
    ∃ t', t'.IsFilePlace k ∧ Leads e .create links slashed l names t' := by
  induction h with
  | arrived hreach =>
      obtain ⟨t', ht', hreach'⟩ := hvaries.reaches hfree ht hreach
      exact ⟨t', ht', .arrived hreach'⟩
  | diverted hreach _ ih =>
      obtain ⟨t', ht', hleads⟩ := ih ht
      exact ⟨t', ht', .diverted (hvaries.reaches_diverted hfree hreach) hleads⟩

theorem resolve_create (hvaries : d.VariesAt places e) (hfree : ∀ k ∈ places, d.IsFree k) (ht : t.IsFilePlace k)
    (h : d.resolve .create path = .ok t) : ∃ t', t'.IsFilePlace k ∧ e.resolve .create path = .ok t' := by
  obtain ⟨hpath, hleads⟩ := resolve_eq_ok_iff.mp h
  obtain ⟨t', ht', hleads'⟩ := hvaries.leads hfree ht hleads
  refine ⟨t', ht', resolve_eq_ok_iff.mpr ⟨hpath, ?_⟩⟩
  rwa [startOf, hvaries.here_eq]

end

/-- A file elsewhere is read from both disks. -/
theorem read (hvaries : d.VariesAt places e) (hfree : ∀ k ∈ places, d.IsFree k) (hl : l ∉ places)
    (h : d.resolve .inspect path = .ok (.found l (.file c))) : e.read path = .ok c := by
  have hentry : e.get? l = some (.file c) := (hvaries.entry l hl).trans (resolve_told h)
  obtain ⟨t, ht, hcreate⟩ := hvaries.resolve_create hfree (.file c) (Disk.resolve_create h)
  refine read_eq_ok_iff.mpr ⟨l, ?_⟩
  cases ht with
  | vacant =>
      have hnone : e.get? l = none := resolve_told hcreate
      simp [hnone] at hentry
  | file c' => exact resolve_extends (.refl e) (by simp) (.file hentry) (by simp) hcreate

theorem set_file (hvaries : d.VariesAt (l :: places) e) (hne : l ≠ []) :
    (d.set l (.file c)).VariesAt places (e.set l (.file c)) := by
  refine ⟨hvaries.here_eq, fun k hk => ?_, fun k hk => ?_⟩
  · rw [get?_set hne, get?_set hne]
    by_cases hkl : k = l
    · rw [if_pos hkl, if_pos hkl]
    · rw [if_neg hkl, if_neg hkl]
      exact hvaries.entry k (by simp [hkl, hk])
  · rw [IsFree, get?_set hne]
    by_cases hkl : k = l
    · exact .inr ⟨c, if_pos hkl⟩
    · rw [if_neg hkl]
      exact hvaries.free k (.tail _ hk)

/-- What can be written to a file can be written to it on the other disk, and then both hold the same there. -/
theorem write (hvaries : d.VariesAt (l :: places) e) (hfree : ∀ k ∈ l :: places, d.IsFree k)
    (h : d.write path c = .ok d') (hl : d'.location? path = some l) :
    ∃ e', e.write path c = .ok e' ∧ d'.VariesAt places e' := by
  obtain ⟨k, t, hcreate, ht, rfl, hk⟩ := exists_of_write h
  obtain rfl : k = l := Option.some.inj (hk.symm.trans hl)
  obtain ⟨t', ht', hcreate'⟩ := hvaries.resolve_create hfree ht hcreate
  refine ⟨e.set k (.file c), write_eq_ok_iff.mpr ⟨k, t', hcreate', ht', rfl⟩, ?_⟩
  exact hvaries.set_file (hfree k (.head _)).ne_nil

end VariesAt

end Scaffold.Storage.Disk
