import Scaffold.Proofs.Path.Steps
import Scaffold.Proofs.Storage.Growth
import Scaffold.Proofs.Storage.Order

namespace Scaffold.Storage.Disk

structure IsName (name : String) : Prop where
  ne_empty : name ≠ ""
  ne_current : name ≠ "."
  ne_parent : name ≠ ".."
  no_slash : '/' ∉ name.toList
  size_le : name.utf8ByteSize ≤ nameLimit

instance (name : String) : Decidable (IsName name) :=
  decidable_of_iff
    (name ≠ "" ∧ name ≠ "." ∧ name ≠ ".." ∧ '/' ∉ name.toList ∧ name.utf8ByteSize ≤ nameLimit)
    ⟨fun ⟨h, h', h'', hslash, hsize⟩ => ⟨h, h', h'', hslash, hsize⟩,
      fun h => ⟨h.ne_empty, h.ne_current, h.ne_parent, h.no_slash, h.size_le⟩⟩

/-- A disk on which every entry stands in a directory. -/
structure WellFormed (d : Disk) : Prop where
  keys : (d.entries.map (·.1)).Nodup
  names : ∀ p ∈ d.entries, ∀ name ∈ p.1, IsName name
  parents : ∀ p ∈ d.entries, d.get? p.1.dropLast = some .directory
  here : d.get? d.here = some .directory

variable {d d' : Disk} {l k : Location} {e : Entry}

theorem get?_of_ne_nil (hl : l ≠ []) : d.get? l = d.entries.lookup l := by simp [get?, hl]

theorem mem_entries_of_eq_some (hd : d.WellFormed) (hl : l ≠ []) (h : d.get? l = some e) :
    (l, e) ∈ d.entries := by
  rw [get?_of_ne_nil hl] at h
  exact (lookup_eq_some_iff hd.keys).mp h

namespace WellFormed

theorem isName (hd : d.WellFormed) (h : d.get? l = some e) {name : String} (hname : name ∈ l) :
    IsName name :=
  hd.names _ (mem_entries_of_eq_some hd (List.ne_nil_of_mem hname) h) name hname

theorem parent (hd : d.WellFormed) (h : d.get? l = some e) : d.get? l.dropLast = some .directory := by
  by_cases hl : l = []
  · simp [hl]
  · exact hd.parents _ (mem_entries_of_eq_some hd hl h)

theorem directory_above (hd : d.WellFormed) (h : d.get? (l ++ k) = some e) (hk : k ≠ []) :
    d.get? l = some .directory := by
  generalize hn : k.length = n
  induction n generalizing k e with
  | zero => exact absurd (List.eq_nil_of_length_eq_zero hn) hk
  | succ n ih =>
      have hparent := hd.parent h
      rw [List.dropLast_append_of_ne_nil hk] at hparent
      by_cases hlast : k.dropLast = []
      · simpa [hlast] using hparent
      · exact ih hparent hlast (by simp [hn])

end WellFormed

theorem WellFormed.mem_walk_iff (hd : d.WellFormed) {levels : Nat} {names : List String} :
    (names, e) ∈ d.walk levels l ↔ names ≠ [] ∧ names.length ≤ levels ∧ d.get? (l ++ names) = some e := by
  induction levels generalizing l names with
  | zero =>
      rw [walk, iff_false_left List.not_mem_nil]
      rintro ⟨hne, hlength, -⟩
      exact hne (List.eq_nil_of_length_eq_zero (Nat.le_zero.mp hlength))
  | succ levels ih =>
      simp only [walk, List.mem_flatMap, mem_visit_iff, ih]
      constructor
      · rintro ⟨name, -, rest, rfl, ⟨rfl, hentry⟩ | ⟨-, hne, hlength, hentry⟩⟩
        · exact ⟨by simp, by simp, hentry⟩
        · rw [List.append_assoc] at hentry
          exact ⟨by simp, Nat.succ_le_succ hlength, hentry⟩
      · rintro ⟨hne, hlength, hentry⟩
        obtain ⟨name, rest, rfl⟩ := List.exists_cons_of_ne_nil hne
        rw [List.append_cons] at hentry
        by_cases hrest : rest = []
        · subst hrest
          rw [List.append_nil] at hentry
          exact ⟨name, mem_names.mpr ⟨e, mem_entries_of_eq_some hd (by simp) hentry⟩, [], rfl, .inl ⟨rfl, hentry⟩⟩
        · have habove := hd.directory_above hentry hrest
          exact ⟨name, mem_names.mpr ⟨.directory, mem_entries_of_eq_some hd (by simp) habove⟩, rest, rfl,
            .inr ⟨habove, hrest, Nat.le_of_succ_le_succ hlength, hentry⟩⟩

theorem WellFormed.mem_entriesBelow (hd : d.WellFormed) {names : List String} :
    (names, e) ∈ d.entriesBelow l ↔ names ≠ [] ∧ d.get? (l ++ names) = some e := by
  rw [entriesBelow, hd.mem_walk_iff]
  refine and_congr_right fun hne => and_iff_right_of_imp fun hentry => ?_
  have hdepth := length_le_depth (mem_entries_of_eq_some hd (by simp [hne]) hentry)
  rw [List.length_append] at hdepth
  omega

theorem mem_filesBelow (hd : d.WellFormed) {dir : String} {names : List String}
    (hdir : d.resolve .inspect dir = .ok (.found l .directory)) :
    names ∈ d.filesBelow dir ↔ names ≠ [] ∧ ∃ c, d.get? (l ++ names) = some (.file c) := by
  simp only [filesBelow, hdir, List.mem_map, List.mem_filter, Prod.exists, hd.mem_entriesBelow]
  constructor
  · rintro ⟨names, e, ⟨⟨hne, hentry⟩, hfile⟩, rfl⟩
    cases e with
    | file c => exact ⟨hne, c, hentry⟩
    | directory | link => cases hfile
  · rintro ⟨hne, c, hentry⟩
    exact ⟨names, .file c, ⟨⟨hne, hentry⟩, rfl⟩, rfl⟩

theorem pairwise_filesBelow (hd : d.WellFormed) (dir : String) : (d.filesBelow dir).Pairwise Before := by
  rw [filesBelow]
  split
  · exact List.pairwise_map.mpr ((pairwise_walk hd.keys _ _).filter _)
  · exact .nil

theorem mem_nameParts {path name : String} (h : name ∈ nameParts path) : name ≠ "" ∧ '/' ∉ name.toList := by
  obtain ⟨hmem, hne⟩ := List.mem_filter.mp h
  exact ⟨by simpa using hne, fun hslash => (Text.mem_of_mem_split hmem hslash).1 rfl⟩

theorem Reaches.append {slashed : Bool} {names more : List String} {m : Location} {r : Progress}
    (h : Reaches d .inspect slashed l names (.arrived (.found m .directory)))
    (hmore : Reaches d .inspect false m more r) : Reaches d .inspect false l (names ++ more) r := by
  generalize hr : Progress.arrived (.found m .directory) = s at h
  induction h with
  | here l =>
      cases hr
      exact hmore
  | current _ ih => exact .current (ih hr)
  | parent _ ih => exact .parent (ih hr)
  | enter hname hentry _ ih =>
      exact .enter ⟨hname.ne_current, hname.ne_parent, hname.size_le, by simp⟩ hentry (ih hr)
  | vacant | file | link | diverted => cases hr

theorem Reaches.append_diverted {slashed : Bool} {names more rest : List String} {base : Location}
    {target : String} (h : Reaches d .inspect slashed l names (.diverted base target rest)) :
    Reaches d .inspect false l (names ++ more) (.diverted base target (rest ++ more)) := by
  generalize hr : Progress.diverted base target rest = s at h
  induction h with
  | current _ ih => exact .current (ih hr)
  | parent _ ih => exact .parent (ih hr)
  | enter hname hentry _ ih =>
      exact .enter ⟨hname.ne_current, hname.ne_parent, hname.size_le, by simp⟩ hentry (ih hr)
  | here | vacant | file | link => cases hr
  | diverted hname hentry _ =>
      cases hr
      exact .diverted ⟨hname.ne_current, hname.ne_parent, hname.size_le, by simp⟩ hentry (by simp)

theorem Leads.append {links : Nat} {slashed : Bool} {names more : List String} {m : Location} {t : Target}
    (h : Leads d .inspect links slashed l names (.found m .directory)) (hne : more ≠ [])
    (hmore : Reaches d .inspect false m more (.arrived t)) :
    Leads d .inspect links false l (names ++ more) t := by
  generalize ht : Target.found m .directory = u at h
  induction h with
  | arrived hreach =>
      subst ht
      exact .arrived (hreach.append hmore)
  | @diverted _ _ _ _ _ rest _ _ hreach _ ih =>
      -- with more names after it, a link is never the last one, where a slash would count
      have hlast : (rest ++ more).isEmpty = false := by simp [hne]
      refine .diverted hreach.append_diverted ?_
      rw [hlast, ← List.append_assoc]
      exact ih ht

theorem IsName.proper {name : String} (h : IsName name) (rest : List String) :
    Proper .inspect false name rest :=
  ⟨h.ne_current, h.ne_parent, h.size_le, by simp⟩

theorem WellFormed.reaches_file (hd : d.WellFormed) {names : List String} (hne : names ≠ []) {c : ByteArray}
    (h : d.get? (l ++ names) = some (.file c)) :
    Reaches d .inspect false l names (.arrived (.found (l ++ names) (.file c))) := by
  induction names generalizing l with
  | nil => exact absurd rfl hne
  | cons name names ih =>
      have hname : IsName name := hd.isName h (by simp)
      by_cases hnames : names = []
      · subst hnames
        exact .file (hname.proper []) h (by simp)
      · rw [List.append_cons] at h ⊢
        exact .enter (hname.proper names) (hd.directory_above h hnames) (ih hnames h)

def pathBelow (dir : String) (names : List String) : String := names.foldl Path.join dir

theorem nameParts_join {dir name : String} (h : IsName name) :
    nameParts (Path.join dir name) = nameParts dir ++ [name] := by
  have hfilter (s : String) :
      nameParts s = (Text.split '/' s).filterMap (Option.guard fun p => decide (p ≠ "")) :=
    (congrFun List.filterMap_eq_filter _).symm
  rw [hfilter, hfilter, Path.filterMap_split_join (by rfl) (Path.isAbsolute_eq_false h.no_slash),
    Text.split_eq_singleton h.no_slash]
  simp [Option.guard, h.ne_empty]

theorem isSlashed_join {dir name : String} (h : IsName name) : isSlashed (Path.join dir name) = false := by
  have hne : name.toList ≠ [] := by simpa using h.ne_empty
  have hlast : (Path.join dir name).toList.getLast? = name.toList.getLast? := by
    obtain ⟨-, hjoin⟩ | ⟨before, -, hjoin⟩ := Path.toList_join dir (Path.isAbsolute_eq_false h.no_slash)
    · rw [hjoin]
    · rw [hjoin, List.getLast?_append, List.getLast?_cons_of_ne_nil hne]
      cases hname : name.toList.getLast? with
      | none => exact absurd (List.getLast?_eq_none_iff.mp hname) hne
      | some c => rfl
  rw [isSlashed, hlast, decide_eq_false_iff_not]
  exact fun hslash => h.no_slash (List.mem_of_getLast? hslash)

theorem nameParts_pathBelow {dir : String} {names : List String} (h : ∀ name ∈ names, IsName name) :
    nameParts (pathBelow dir names) = nameParts dir ++ names := by
  induction names generalizing dir with
  | nil => simp [pathBelow]
  | cons name names ih =>
      have hjoin : nameParts (pathBelow (Path.join dir name) names) = nameParts (Path.join dir name) ++ names :=
        ih fun n hn => h n (by simp [hn])
      rw [nameParts_join (h name (by simp)), List.append_assoc] at hjoin
      exact hjoin

theorem isAbsolute_pathBelow {dir : String} {names : List String} (h : ∀ name ∈ names, IsName name) :
    Path.isAbsolute (pathBelow dir names) = Path.isAbsolute dir := by
  induction names generalizing dir with
  | nil => rfl
  | cons name names ih =>
      have hjoin : Path.isAbsolute (pathBelow (Path.join dir name) names) = Path.isAbsolute (Path.join dir name) :=
        ih fun n hn => h n (by simp [hn])
      rw [Path.isAbsolute_join (Path.isAbsolute_eq_false (h name (by simp)).no_slash)] at hjoin
      exact hjoin

theorem isSlashed_pathBelow {dir : String} {names : List String} (hne : names ≠ [])
    (h : ∀ name ∈ names, IsName name) : isSlashed (pathBelow dir names) = false := by
  induction names generalizing dir with
  | nil => exact absurd rfl hne
  | cons name names ih =>
      by_cases hnames : names = []
      · subst hnames
        exact isSlashed_join (h name (by simp))
      · exact ih hnames fun n hn => h n (by simp [hn])

/-- A path of a file below a directory leads to it, if it is not too long. -/
theorem WellFormed.resolve_pathBelow (hd : d.WellFormed) {dir : String} {names : List String} {c : ByteArray}
    (hdir : d.resolve .inspect dir = .ok (.found l .directory)) (hne : names ≠ [])
    (hfile : d.get? (l ++ names) = some (.file c)) (hpath : Admissible (pathBelow dir names)) :
    d.resolve .inspect (pathBelow dir names) = .ok (.found (l ++ names) (.file c)) := by
  have hnames : ∀ name ∈ names, IsName name := fun name hname => hd.isName hfile (by simp [hname])
  refine resolve_eq_ok_iff.mpr ⟨hpath, ?_⟩
  rw [startOf, isAbsolute_pathBelow hnames, nameParts_pathBelow hnames, isSlashed_pathBelow hne hnames]
  exact (resolve_eq_ok_iff.mp hdir).2.append hne (hd.reaches_file hne hfile)

/-- What is found is there, the place for a new entry is in a directory, and a way over a link goes on from
one. -/
def Progress.Sound (d : Disk) : Progress → Prop
  | .arrived (.found l e) => d.get? l = some e
  | .arrived (.vacant l) => ∃ k name, l = k ++ [name] ∧ d.get? k = some .directory ∧ IsName name
  | .diverted base _ rest => d.get? base = some .directory ∧ ∀ n ∈ rest, n ≠ "" ∧ '/' ∉ n.toList
  | .failed _ => True

theorem Reaches.sound (hd : d.WellFormed) {p : Purpose} {slashed : Bool} {names : List String} {r : Progress}
    (h : Reaches d p slashed l names r) (hl : d.get? l = some .directory)
    (hnames : ∀ n ∈ names, n ≠ "" ∧ '/' ∉ n.toList) : r.Sound d := by
  induction h with
  | here => exact hl
  | current _ ih => exact ih hl fun n hn => hnames n (.tail _ hn)
  | parent _ ih => exact ih (hd.parent hl) fun n hn => hnames n (.tail _ hn)
  | enter _ hentry _ ih => exact ih hentry fun n hn => hnames n (.tail _ hn)
  | @vacant l name hname _ =>
      obtain ⟨hne, hslash⟩ := hnames name (.head _)
      exact ⟨l, name, rfl, hl, hne, hname.ne_current, hname.ne_parent, hslash, hname.size_le⟩
  | file _ hentry _ => exact hentry
  | link _ hentry _ => exact hentry
  | diverted => exact ⟨hl, fun n hn => hnames n (.tail _ hn)⟩

theorem Leads.sound (hd : d.WellFormed) {p : Purpose} {links : Nat} {slashed : Bool} {names : List String}
    {t : Target} (h : Leads d p links slashed l names t) (hl : d.get? l = some .directory)
    (hnames : ∀ n ∈ names, n ≠ "" ∧ '/' ∉ n.toList) : (Progress.arrived t).Sound d := by
  induction h with
  | arrived hreach => exact hreach.sound hd hl hnames
  | @diverted _ _ _ base _ rest target _ hreach _ ih =>
      obtain ⟨hbase, hrest⟩ := hreach.sound hd hl hnames
      refine ih ?_ fun n hn => ?_
      · split
        · rfl
        · exact hbase
      · obtain hn | hn := List.mem_append.mp hn
        · exact mem_nameParts hn
        · exact hrest n hn

theorem WellFormed.sound_resolve (hd : d.WellFormed) {p : Purpose} {path : String} {t : Target}
    (h : d.resolve p path = .ok t) : (Progress.arrived t).Sound d := by
  refine (resolve_eq_ok_iff.mp h).2.sound hd ?_ fun n hn => mem_nameParts hn
  rw [startOf]
  split
  · rfl
  · exact hd.here

theorem mem_keys_setEntry {entries : List (Location × Entry)} {k : Location}
    (h : k ∈ (setEntry l e entries).map (·.1)) : k = l ∨ k ∈ entries.map (·.1) := by
  induction entries with
  | nil => simpa [setEntry] using h
  | cons p entries ih =>
      rw [setEntry] at h
      split at h
      · exact .inr (by simpa using h)
      · simp only [List.map_cons, List.mem_cons] at h ⊢
        obtain h | h := h
        · exact .inr (.inl h)
        · exact (ih h).imp_right .inr

theorem nodup_keys_setEntry {entries : List (Location × Entry)} (h : (entries.map (·.1)).Nodup) :
    ((setEntry l e entries).map (·.1)).Nodup := by
  induction entries with
  | nil => simp [setEntry]
  | cons p entries ih =>
      simp only [List.map_cons, List.nodup_cons] at h
      rw [setEntry]
      split
      · simpa using h
      · next hne =>
          simp only [List.map_cons, List.nodup_cons]
          refine ⟨fun hmem => ?_, ih h.2⟩
          obtain heq | hmem := mem_keys_setEntry hmem
          · exact hne heq
          · exact h.1 hmem

theorem WellFormed.set_file (hd : d.WellFormed) {c : ByteArray} (h : d.Replaces l c (d.set l (.file c)))
    (hnames : ∀ name ∈ l, IsName name) (hparent : d.get? l.dropLast = some .directory) :
    (d.set l (.file c)).WellFormed := by
  have hkeys (p : Location × Entry) (hp : p ∈ (d.set l (.file c)).entries) :
      p.1 = l ∨ ∃ q ∈ d.entries, q.1 = p.1 := by
    obtain heq | hmem := mem_keys_setEntry (List.mem_map.mpr ⟨p, hp, rfl⟩)
    · exact .inl heq
    · exact .inr (List.mem_map.mp hmem)
  refine ⟨nodup_keys_setEntry hd.keys, fun p hp => ?_, fun p hp => ?_, h.extends.directory hd.here⟩
  · obtain heq | ⟨q, hq, heq⟩ := hkeys p hp
    · rw [heq]
      exact hnames
    · rw [← heq]
      exact hd.names q hq
  · obtain heq | ⟨q, hq, heq⟩ := hkeys p hp
    · rw [heq]
      exact h.extends.directory hparent
    · rw [← heq]
      exact h.extends.directory (hd.parents q hq)

theorem WellFormed.write (hd : d.WellFormed) {path : String} {c : ByteArray}
    (h : d.write path c = .ok d') : d'.WellFormed := by
  rw [Disk.write] at h
  split at h
  · cases h
  · next l old hresolve =>
      cases h
      have hfile : d.get? l = some (.file old) := resolve_told hresolve
      exact hd.set_file (replaces_set (.inr ⟨old, hfile⟩)) (fun _ => hd.isName hfile) (hd.parent hfile)
  · cases h
  · next l hresolve =>
      cases h
      obtain ⟨k, name, rfl, hk, hname⟩ := hd.sound_resolve hresolve
      refine hd.set_file (replaces_set (.inl (resolve_told hresolve))) (fun n hn => ?_) (by simpa using hk)
      obtain hn | hn := List.mem_append.mp hn
      · exact hd.isName hk hn
      · rwa [List.mem_singleton.mp hn]

end Scaffold.Storage.Disk
