import Mathlib.Logic.Relation
import Scaffold.Proofs.Storage.Growth

namespace Scaffold

def Path.Ascends : String → String → Prop := Relation.ReflTransGen fun path above => Path.parent? path = some above

namespace Storage.Disk

variable {d d' d'' : Disk} {path : String} {l : Location}

section

variable {slashed : Bool} {names : List String} {k : Location}

theorem Reaches.made (hext : d.Extends d') (hk : d'.get? k = some .directory)
    (h : Reaches d .entry slashed l names (.arrived (.vacant k))) :
    Reaches d' .inspect slashed l names (.arrived (.found k .directory)) := by
  generalize hr : Progress.arrived (.vacant k) = r at h
  induction h with
  | current _ ih => exact .current (ih hr)
  | parent _ ih => exact .parent (ih hr)
  | enter hname hentry _ ih => exact .enter hname.inspect (hext.directory hentry) (ih hr)
  | vacant hname hentry =>
      cases hr
      exact .enter hname.inspect hk (.here _)
  | here | file | link | diverted => cases hr

theorem Leads.made (hext : d.Extends d') (hk : d'.get? k = some .directory) {links : Nat}
    (h : Leads d .entry links slashed l names (.vacant k)) :
    Leads d' .inspect links slashed l names (.found k .directory) := by
  generalize ht : Target.vacant k = t at h
  induction h with
  | arrived hreach =>
      subst ht
      exact .arrived (hreach.made hext hk)
  | diverted hreach _ ih => exact .diverted (hreach.extends_diverted hext) (ih ht)

end

theorem makeDir_made (h : d.makeDir path = .ok d') (hnone : d.get? l = none) (hnew : d'.get? l ≠ none) :
    d'.resolve .inspect path = .ok (.found l .directory) := by
  have hext := (makeDir_addsDirectories h).extends
  rw [makeDir] at h
  split at h
  · cases h
  · cases h
  · next k hresolve =>
      cases h
      have hk : k ≠ [] := ne_nil_of_ne_directory (resolve_told hresolve) (by simp)
      rw [get?_set hk] at hnew
      by_cases hlk : l = k
      · subst hlk
        obtain ⟨hpath, hleads⟩ := resolve_eq_ok_iff.mp hresolve
        refine resolve_eq_ok_iff.mpr ⟨hpath, hleads.made hext ?_⟩
        rw [get?_set hk, if_pos rfl]
      · rw [if_neg hlk] at hnew
        exact absurd hnone hnew

theorem Extends.resolve_directory (hext : d.Extends d') (h : d.resolve .inspect path = .ok (.found l .directory)) :
    d'.resolve .inspect path = .ok (.found l .directory) :=
  resolve_extends hext (by simp) (.directory l) (by simp) h

theorem settle_made (hnone : d.get? l = none) (hnew : Disk.get? (d.settle path (d.makeDir path)).1 l ≠ none) :
    (d.settle path (d.makeDir path)).1.resolve .inspect path = .ok (.found l .directory) := by
  cases hmade : d.makeDir path with
  | ok d' =>
      rw [hmade] at hnew
      exact makeDir_made hmade hnone hnew
  | error fault =>
      rw [hmade] at hnew
      exact absurd hnone hnew

theorem makeDirsFrom_made (fuel : Nat) (hnone : d.get? l = none)
    (hnew : Disk.get? (makeDirsFrom fuel path d).1 l ≠ none) :
    ∃ above, Path.Ascends path above ∧
      (makeDirsFrom fuel path d).1.resolve .inspect above = .ok (.found l .directory) := by
  induction fuel generalizing path d with
  | zero => exact ⟨path, .refl, settle_made hnone hnew⟩
  | succ fuel ih =>
      generalize hresult : makeDirsFrom (fuel + 1) path d = result at hnew ⊢
      rw [makeDirsFrom] at hresult
      split at hresult
      · subst hresult
        exact absurd hnone hnew
      · split at hresult
        · next parent _ hparent =>
            split at hresult
            · next made hmade =>
                have hadds : made.AddsDirectories result.1 := hresult ▸ settle_addsDirectories
                by_cases hbefore : made.get? l = none
                · subst hresult
                  exact ⟨path, .refl, settle_made hbefore hnew⟩
                · have hnew' : Disk.get? (makeDirsFrom fuel parent d).1 l ≠ none := by rwa [hmade]
                  obtain ⟨above, habove, hfound⟩ := ih hnone hnew'
                  rw [hmade] at hfound
                  exact ⟨above, .head hparent habove, hadds.extends.resolve_directory hfound⟩
            · subst hresult
              obtain ⟨above, habove, hfound⟩ := ih hnone hnew
              exact ⟨above, .head hparent habove, hfound⟩
        · subst hresult
          exact ⟨path, .refl, settle_made hnone hnew⟩

theorem Reaches.not_link {slashed : Bool} {names : List String} {k : Location} {t : String}
    (h : Reaches d .inspect slashed l names (.arrived (.found k (.link t)))) : False := by
  generalize hr : Progress.arrived (.found k (.link t)) = r at h
  induction h with
  | current _ ih => exact ih hr
  | parent _ ih => exact ih hr
  | enter _ _ _ ih => exact ih hr
  | link _ _ hp => cases hp
  | here | vacant | file | diverted => cases hr

theorem Leads.not_link {links : Nat} {slashed : Bool} {names : List String} {k : Location} {t : String}
    (h : Leads d .inspect links slashed l names (.found k (.link t))) : False := by
  generalize ht : Target.found k (.link t) = target at h
  induction h with
  | arrived hreach =>
      subst ht
      exact hreach.not_link
  | diverted _ _ ih => exact ih ht

theorem Extends.location? (hext : d.Extends d') (h : d.location? path = some l) : d'.location? path = some l := by
  obtain ⟨e, he⟩ := location?_eq_some_iff.mp h
  cases e with
  | directory => exact location?_eq_some (hext.resolve_directory he)
  | file c =>
      obtain ⟨c', -, hc'⟩ := hext.resolve_file he
      exact location?_eq_some hc'
  | link t => exact absurd (resolve_eq_ok_iff.mp he).2 Leads.not_link

/-- A disk is as another one but for the files that some paths lead to, and for new directories on the way to
a directory. -/
structure ChangesOnly (files : List String) (dir : String) (d d' : Disk) : Prop where
  here_eq : d'.here = d.here
  entry : ∀ l, some l ∉ files.map (fun file => d'.location? file) →
    d'.get? l = d.get? l ∨ d.get? l = none ∧ d'.get? l = some .directory ∧
      ∃ above, Path.Ascends dir above ∧ d'.location? above = some l

namespace ChangesOnly

variable {files : List String} {dir : String}

theorem of_makeDirs (dir : String) (d : Disk) : ChangesOnly [] dir d (d.makeDirs dir).1 := by
  have hadds := makeDirs_addsDirectories dir d
  refine ⟨hadds.here_eq, fun l _ => ?_⟩
  rcases hadds.entry l with hsame | ⟨hnone, hnew⟩
  · exact .inl hsame
  · have hsome : Disk.get? (d.makeDirs dir).1 l ≠ none := by simp [hnew]
    obtain ⟨above, habove, hfound⟩ := makeDirsFrom_made (dir.length + 1) hnone hsome
    exact .inr ⟨hnone, hnew, above, habove, location?_eq_some hfound⟩

theorem write (h : ChangesOnly files dir d d') {c : ByteArray} (hwrite : d'.write path c = .ok d'') :
    ChangesOnly (path :: files) dir d d'' := by
  obtain ⟨k, hreplaces, hk⟩ := write_replaces hwrite
  have hext := hreplaces.extends
  refine ⟨hreplaces.here_eq.trans h.here_eq, fun l hl => ?_⟩
  simp only [List.map_cons, List.mem_cons, not_or, location?_eq_some hk, Option.some.injEq] at hl
  have hfiles : some l ∉ files.map (fun file => d'.location? file) := by
    intro hmem
    obtain ⟨file, hfile, hlocation⟩ := List.mem_map.mp hmem
    exact hl.2 (List.mem_map.mpr ⟨file, hfile, hext.location? hlocation⟩)
  rw [hreplaces.entry, if_neg hl.1]
  rcases h.entry l hfiles with hsame | ⟨hnone, hnew, above, habove, hlocation⟩
  · exact .inl hsame
  · exact .inr ⟨hnone, hnew, above, habove, hext.location? hlocation⟩

theorem mono (h : ChangesOnly files dir d d') {more : List String} (hmore : files ⊆ more) :
    ChangesOnly more dir d d' :=
  ⟨h.here_eq, fun l hl => h.entry l fun hmem => hl (List.map_subset _ hmore hmem)⟩

end ChangesOnly

end Storage.Disk

end Scaffold
