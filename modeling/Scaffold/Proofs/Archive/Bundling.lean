import Scaffold.Archive.Bundle
import Scaffold.Proofs.Archive.RoundTrip
import Scaffold.Proofs.Storage.Runs
import Scaffold.Proofs.Storage.Tree

namespace Scaffold.Archive

open Storage

/-- A text is another one but for slashes at both ends. -/
structure Trims (s trimmed : String) : Prop where
  around : ∃ before after, s.toList = before ++ trimmed.toList ++ after ∧ ∀ c ∈ before ++ after, c = '/'
  head : trimmed.toList.head? ≠ some '/'
  last : trimmed.toList.getLast? ≠ some '/'

theorem head?_dropWhile_slash (cs : List Char) : (cs.dropWhile (· = '/')).head? ≠ some '/' := by
  induction cs with
  | nil => simp
  | cons c cs ih =>
      by_cases hc : c = '/'
      · simpa [hc] using ih
      · simp [hc]

theorem eq_slash_of_mem_takeWhile {cs : List Char} {c : Char} (h : c ∈ cs.takeWhile (· = '/')) : c = '/' := by
  simpa using List.all_eq_true.mp List.all_takeWhile c h

theorem trims_trimSlashes (s : String) : Trims s (trimSlashes s) := by
  obtain ⟨cs, hcs⟩ : ∃ cs, cs = s.toList.dropWhile (· = '/') := ⟨_, rfl⟩
  obtain ⟨ds, hds⟩ : ∃ ds, ds = cs.reverse.dropWhile (· = '/') := ⟨_, rfl⟩
  have htrimmed : (trimSlashes s).toList = ds.reverse := by rw [hds, hcs, trimSlashes, String.toList_ofList]
  have hopening : s.toList = s.toList.takeWhile (· = '/') ++ cs := by rw [hcs, List.takeWhile_append_dropWhile]
  have hclosing : cs = ds.reverse ++ (cs.reverse.takeWhile (· = '/')).reverse := by
    rw [hds, ← List.reverse_append, List.takeWhile_append_dropWhile, List.reverse_reverse]
  refine ⟨⟨s.toList.takeWhile (· = '/'), (cs.reverse.takeWhile (· = '/')).reverse, ?_, fun c hc => ?_⟩, ?_, ?_⟩
  · rw [htrimmed, List.append_assoc, ← hclosing, ← hopening]
  · obtain hc | hc := List.mem_append.mp hc
    · exact eq_slash_of_mem_takeWhile hc
    · exact eq_slash_of_mem_takeWhile (List.mem_reverse.mp hc)
  · rw [htrimmed]
    intro hhead
    have hcs' : cs.head? = some '/' := by rw [hclosing, List.head?_append, hhead]; rfl
    exact head?_dropWhile_slash s.toList (hcs ▸ hcs')
  · rw [htrimmed, List.getLast?_reverse, hds]
    exact head?_dropWhile_slash cs.reverse

theorem Trims.ne_empty {s trimmed : String} (h : Trims s trimmed) (hs : ∃ c ∈ s.toList, c ≠ '/') :
    trimmed ≠ "" := by
  rintro rfl
  obtain ⟨before, after, htext, hslashes⟩ := h.around
  obtain ⟨c, hc, hne⟩ := hs
  exact hne (hslashes c (by simpa [htext] using hc))

theorem entryName_eq {folder : String} {names : List String} (hfolder : ∃ c ∈ folder.toList, c ≠ '/')
    (hnames : ∀ name ∈ names, Disk.IsName name) :
    entryName folder names = Text.joinWith "/" (trimSlashes folder :: names) := by
  have hall : ∀ p ∈ trimSlashes folder :: names, decide (p ≠ "") = true := by
    intro p hp
    obtain rfl | hp := List.mem_cons.mp hp
    · simpa using (trims_trimSlashes folder).ne_empty hfolder
    · simpa using (hnames p hp).ne_empty
  rw [entryName, List.filter_eq_self.mpr hall]

theorem result_entriesFor_ok {dir folder archive : String} {d d' : Disk} {list : List (List String)}
    {entries : List Entry}
    (h : OnDisk.result (entriesFor dir folder (some archive) list) d = (.ok entries, d')) :
    d' = d ∧ ∃ files : List (List String × ByteArray),
      entries = files.map (fun f => ⟨entryName folder f.1, f.2⟩) ∧
      files.map (·.1) = list.filter (fun names => d.realPath? (Disk.pathBelow dir names) ≠ some archive) ∧
      ∀ f ∈ files, d.read (Disk.pathBelow dir f.1) = .ok f.2 := by
  induction list generalizing entries with
  | nil =>
      simp only [entriesFor, OnDisk.result_pure, Prod.mk.injEq, Except.ok.injEq] at h
      obtain ⟨rfl, rfl⟩ := h
      exact ⟨rfl, [], rfl, rfl, by simp⟩
  | cons names list ih =>
      have hpath : names.foldl Path.join dir = Disk.pathBelow dir names := rfl
      simp only [entriesFor, hpath, OnDisk.result_bind, OnDisk.result_realPath?, Option.isSome_some,
        Bool.true_and, decide_eq_true_eq] at h
      by_cases hreal : d.realPath? (Disk.pathBelow dir names) = some archive
      · simp only [hreal, if_true] at h
        rw [List.filter_cons_of_neg (by simpa using hreal)]
        exact ih h
      · simp only [hreal, if_false, OnDisk.result_bind, OnDisk.result_read] at h
        rw [List.filter_cons_of_pos (by simpa using hreal)]
        cases hread : d.read (Disk.pathBelow dir names) with
        | error fault => simp [hread] at h
        | ok content =>
            simp only [hread, OnDisk.result_bind, OnDisk.result_log] at h
            rcases hrest : OnDisk.result (entriesFor dir folder (some archive) list) d with ⟨r, e⟩
            rw [hrest] at h
            cases r with
            | error e => simp at h
            | ok rest =>
                simp only [OnDisk.result_pure, Prod.mk.injEq, Except.ok.injEq] at h
                obtain ⟨rfl, rfl⟩ := h
                obtain ⟨hd, files, rfl, hnames, hcontents⟩ := ih hrest
                refine ⟨hd, (names, content) :: files, rfl, by simp [hnames], fun f hf => ?_⟩
                obtain rfl | hf := List.mem_cons.mp hf
                · exact hread
                · exact hcontents f hf

theorem result_bundle_ok {dir output folder : String} {d d' : Disk} {n : Nat}
    (h : OnDisk.result (bundle dir output folder) d = (.ok n, d')) :
    d.isDirectory dir = true ∧ ∃ begun listed entries, d.write output .empty = .ok begun ∧
      OnDisk.result (entriesFor dir folder (begun.realPath? output) (begun.filesBelow dir)) begun =
        (.ok entries, listed) ∧
      listed.write output (Zip.encode entries) = .ok d' ∧ n = entries.length := by
  simp only [bundle, OnDisk.result_bind, OnDisk.result_isDirectory] at h
  cases hdir : d.isDirectory dir with
  | false => simp [hdir] at h
  | true =>
      simp only [hdir, Bool.not_true, Bool.false_eq_true, if_false, OnDisk.result_bind] at h
      rcases hbegin : OnDisk.result (Storage.write output .empty) d with ⟨r, begun⟩
      rw [hbegin] at h
      cases r with
      | error fault => simp at h
      | ok _ =>
          simp only [OnDisk.result_bind, OnDisk.result_realPath?, OnDisk.result_filesBelow] at h
          rcases hentries : OnDisk.result (entriesFor dir folder (begun.realPath? output)
            (begun.filesBelow dir)) begun with ⟨r, listed⟩
          rw [hentries] at h
          cases r with
          | error e => simp at h
          | ok entries =>
              simp only [OnDisk.result_bind] at h
              rcases hfinish : OnDisk.result (Storage.write output (Zip.encode entries)) listed
                with ⟨r, finished⟩
              rw [hfinish] at h
              cases r with
              | error fault => simp at h
              | ok _ =>
                  simp only [OnDisk.result_pure, Prod.mk.injEq, Except.ok.injEq] at h
                  obtain ⟨rfl, rfl⟩ := h
                  exact ⟨rfl, begun, listed, entries, (OnDisk.result_write_ok_iff _).mp hbegin, hentries,
                    (OnDisk.result_write_ok_iff _).mp hfinish, rfl⟩

section

variable {d : Disk} {dir output : String} {l k : Location} {names : List String}

theorem textOf_inj (hd : d.WellFormed) {a b : ByteArray} (hl : d.get? l = some (.file a))
    (hk : d.get? k = some (.file b)) (h : Disk.textOf l = Disk.textOf k) : l = k := by
  have hjoin : "/".toList = ['/'] := rfl
  refine Text.joinWith_inj hjoin (Disk.ne_nil_of_ne_directory hl (by simp))
    (Disk.ne_nil_of_ne_directory hk (by simp)) (fun name hname => (hd.isName hl hname).no_slash)
    (fun name hname => (hd.isName hk hname).no_slash) ?_
  simpa [Disk.textOf] using h

theorem target_pathBelow (hd : d.WellFormed) (hdir : d.resolve .inspect dir = .ok (.found l .directory))
    {c : ByteArray} (hfile : d.get? (l ++ names) = some (.file c)) (hne : names ≠ []) {t : Disk.Target}
    (h : d.resolve .inspect (Disk.pathBelow dir names) = .ok t) : t = .found (l ++ names) (.file c) := by
  have hpath := hd.resolve_pathBelow hdir hne hfile (Disk.resolve_eq_ok_iff.mp h).1
  rw [h] at hpath
  exact Except.ok.inj hpath

/-- A file that is left out is that of the archive. -/
theorem eq_of_realPath?_pathBelow (hd : d.WellFormed)
    (hdir : d.resolve .inspect dir = .ok (.found l .directory)) {c b : ByteArray}
    (hfile : d.get? (l ++ names) = some (.file c)) (hne : names ≠ []) (harchive : d.get? k = some (.file b))
    (hreal : d.realPath? (Disk.pathBelow dir names) = some (Disk.textOf k)) : l ++ names = k := by
  rw [Disk.realPath?_eq_map, Option.map_eq_some_iff] at hreal
  obtain ⟨m, hm, htext⟩ := hreal
  obtain ⟨e, hresolve⟩ := Disk.location?_eq_some_iff.mp hm
  obtain ⟨rfl, rfl⟩ := Disk.Target.found.inj (target_pathBelow hd hdir hfile hne hresolve)
  exact textOf_inj hd hfile harchive htext

/-- What is read for the files below a directory is what they hold. -/
theorem mem_files_iff (hd : d.WellFormed) (hdir : d.resolve .inspect dir = .ok (.found l .directory))
    {b : ByteArray} (harchive : d.get? k = some (.file b)) {files : List (List String × ByteArray)}
    (hfiles : files.map (·.1) = (d.filesBelow dir).filter
      (fun names => d.realPath? (Disk.pathBelow dir names) ≠ some (Disk.textOf k)))
    (hread : ∀ f ∈ files, d.read (Disk.pathBelow dir f.1) = .ok f.2) (c : ByteArray) :
    (names, c) ∈ files ↔ d.get? (l ++ names) = some (.file c) ∧ l ++ names ≠ k := by
  have hmem (names : List String) : names ∈ files.map (·.1) ↔ names ∈ d.filesBelow dir ∧
      d.realPath? (Disk.pathBelow dir names) ≠ some (Disk.textOf k) := by
    rw [hfiles, List.mem_filter, decide_eq_true_eq]
  have hentry (f : List String × ByteArray) (hf : f ∈ files) :
      d.get? (l ++ f.1) = some (.file f.2) ∧ l ++ f.1 ≠ k := by
    obtain ⟨hbelow, hreal⟩ := (hmem f.1).mp (List.mem_map.mpr ⟨f, hf, rfl⟩)
    obtain ⟨hne, c, hc⟩ := (Disk.mem_filesBelow hd hdir).mp hbelow
    obtain ⟨m, hresolve⟩ := Disk.read_eq_ok_iff.mp (hread f hf)
    obtain ⟨rfl, hcontent⟩ := Disk.Target.found.inj (target_pathBelow hd hdir hc hne hresolve)
    refine ⟨by rw [hc, ← hcontent], fun heq => hreal ?_⟩
    rw [Disk.realPath?_eq_map, Disk.location?_eq_some hresolve, heq]
    rfl
  constructor
  · exact fun hf => hentry (names, c) hf
  · rintro ⟨hc, hne⟩
    have hnames : names ≠ [] := by
      rintro rfl
      have hdirectory : d.get? l = some .directory := hd.sound_resolve hdir
      simp [hdirectory] at hc
    have hbelow : names ∈ d.filesBelow dir := (Disk.mem_filesBelow hd hdir).mpr ⟨hnames, c, hc⟩
    have hreal : d.realPath? (Disk.pathBelow dir names) ≠ some (Disk.textOf k) :=
      fun hreal => hne (eq_of_realPath?_pathBelow hd hdir hc hnames harchive hreal)
    obtain ⟨f, hf, rfl⟩ := List.mem_map.mp ((hmem names).mpr ⟨hbelow, hreal⟩)
    have hcontent := (hentry f hf).1
    rw [hc, Option.some.injEq, Storage.Entry.file.injEq] at hcontent
    rwa [hcontent]

theorem isName_of_mem_files (hd : d.WellFormed) (hdir : d.resolve .inspect dir = .ok (.found l .directory))
    {files : List (List String × ByteArray)} {p : List String → Bool}
    (hfiles : files.map (·.1) = (d.filesBelow dir).filter p) {f : List String × ByteArray} (hf : f ∈ files) :
    f.1 ≠ [] ∧ ∀ name ∈ f.1, Disk.IsName name := by
  have hmem : f.1 ∈ files.map (·.1) := List.mem_map.mpr ⟨f, hf, rfl⟩
  rw [hfiles] at hmem
  obtain ⟨hne, c, hc⟩ := (Disk.mem_filesBelow hd hdir).mp (List.mem_filter.mp hmem).1
  exact ⟨hne, fun name hname => hd.isName hc (List.mem_append_right l hname)⟩

theorem pairwise_files (hd : d.WellFormed) {files : List (List String × ByteArray)} {p : List String → Bool}
    (hfiles : files.map (·.1) = (d.filesBelow dir).filter p) :
    files.Pairwise fun f g => Disk.Before f.1 g.1 := by
  have hlist : (files.map (·.1)).Pairwise Disk.Before := by
    rw [hfiles]
    exact (Disk.pairwise_filesBelow hd dir).filter _
  exact List.pairwise_map.mp hlist

theorem nodup_names {files : List (List String × ByteArray)} {trimmed : String}
    (hnames : ∀ f ∈ files, f.1 ≠ [] ∧ ∀ name ∈ f.1, Disk.IsName name)
    (hfiles : files.Pairwise fun f g => Disk.Before f.1 g.1) :
    (files.map fun f => Text.joinWith "/" (trimmed :: f.1)).Nodup := by
  refine List.pairwise_map.mpr (hfiles.imp_of_mem fun {f g} hf hg hbefore heq => ?_)
  obtain ⟨hfne, hfnames⟩ := hnames f hf
  obtain ⟨hgne, hgnames⟩ := hnames g hg
  have hjoin : "/".toList = ['/'] := rfl
  rw [Text.joinWith_cons _ _ hfne, Text.joinWith_cons _ _ hgne] at heq
  have hsame : f.1 = g.1 :=
    Text.joinWith_inj hjoin hfne hgne (fun name hname => (hfnames name hname).no_slash)
      (fun name hname => (hgnames name hname).no_slash) (by simpa using heq)
  exact Disk.before_irrefl _ (hsame ▸ hbefore)

end

/-- An archive of a directory holds the files below it, but for the archive itself, once each and in the
order of the names on the way to them. -/
theorem bundle_archives_files_below {dir output folder : String} {d d' : Disk} {n : Nat} (hd : d.WellFormed)
    (hfolder : ∃ c ∈ folder.toList, c ≠ '/') (h : OnDisk.result (bundle dir output folder) d = (.ok n, d')) :
    ∃ (l k : Location) (trimmed : String) (files : List (List String × ByteArray)) (entries : List Entry),
      d.location? dir = some l ∧ d'.location? output = some k ∧ Trims folder trimmed ∧
      (∀ names content, (names, content) ∈ files ↔
        d.get? (l ++ names) = some (.file content) ∧ l ++ names ≠ k) ∧
      files.Pairwise (fun f g => Disk.Before f.1 g.1) ∧
      entries = files.map (fun f => ⟨Text.joinWith "/" (trimmed :: f.1), f.2⟩) ∧
      (entries.map (·.name)).Nodup ∧ n = entries.length ∧
      d'.read output = .ok (Zip.encode entries) ∧
      (Zip.Fits entries → Zip.decode? (Zip.encode entries) = some entries) ∧
      ∀ m, m ≠ k → d'.get? m = d.get? m := by
  obtain ⟨hdirectory, begun, listed, entries, hbegin, hentries, hfinish, hn⟩ := result_bundle_ok h
  obtain ⟨l, hdir⟩ := Disk.exists_of_isDirectory hdirectory
  obtain ⟨k, hbegun, harchive⟩ := Disk.write_replaces hbegin
  -- the files are listed after the archive was begun, so all that follows is about that disk
  have hdir' : begun.resolve .inspect dir = .ok (.found l .directory) :=
    Disk.resolve_extends hbegun.extends (by simp) (.directory l) (by simp) hdir
  have hwf : begun.WellFormed := hd.write hbegin
  rw [Disk.realPath?_eq_map, Disk.location?_eq_some harchive] at hentries
  obtain ⟨hlisted, files, rfl, hfiles, hread⟩ := result_entriesFor_ok hentries
  rw [hlisted] at hfinish
  have hmem (names : List String) (c : ByteArray) : (names, c) ∈ files ↔
      begun.get? (l ++ names) = some (.file c) ∧ l ++ names ≠ k :=
    mem_files_iff hwf hdir' (Disk.resolve_told harchive) hfiles hread c
  have hbelow : ∀ f ∈ files, f.1 ≠ [] ∧ ∀ name ∈ f.1, Disk.IsName name :=
    fun f hf => isName_of_mem_files hwf hdir' hfiles hf
  have hsorted := pairwise_files hwf hfiles
  have hnames : files.map (fun f => (⟨entryName folder f.1, f.2⟩ : Entry)) =
      files.map (fun f => ⟨Text.joinWith "/" (trimSlashes folder :: f.1), f.2⟩) :=
    List.map_congr_left fun f hf => by rw [entryName_eq hfolder (hbelow f hf).2]
  obtain ⟨hfinished, houtput⟩ := Disk.write_replaces_file harchive hfinish
  refine ⟨l, k, trimSlashes folder, files, _, Disk.location?_eq_some hdir, Disk.location?_eq_some houtput,
    trims_trimSlashes folder, fun names c => ?_, hsorted, hnames, ?_, hn, Disk.read_written hfinish,
    Zip.decode?_encode, fun m hm => ?_⟩
  · rw [hmem]
    refine and_congr_left fun hne => ?_
    rw [hbegun.entry, if_neg hne]
  · rw [hnames, List.map_map]
    exact nodup_names hbelow hsorted
  · rw [hfinished.entry, if_neg hm, hbegun.entry, if_neg hm]

def sampleTree (archive : ByteArray) : Disk :=
  ⟨[(["d", "out.zip"], .file archive), (["d", "a.txt"], .file "x".toUTF8), (["d", "a", "b"], .file "y".toUTF8),
    (["d", "a"], .directory), (["d"], .directory)], []⟩

theorem sampleTree_wellFormed (archive : ByteArray) : (sampleTree archive).WellFormed := by
  have hkeys : (sampleTree archive).entries.map (·.1) =
      [["d", "out.zip"], ["d", "a.txt"], ["d", "a", "b"], ["d", "a"], ["d"]] := rfl
  refine ⟨by rw [hkeys]; decide, fun p hp => ?_, fun p hp => ?_, rfl⟩
  · simp only [sampleTree, List.mem_cons, List.not_mem_nil, or_false] at hp
    obtain rfl | rfl | rfl | rfl | rfl := hp <;> dsimp only <;> decide
  · simp only [sampleTree, List.mem_cons, List.not_mem_nil, or_false] at hp
    obtain rfl | rfl | rfl | rfl | rfl := hp <;> rfl

theorem filesBelow_sampleTree (archive : ByteArray) :
    (sampleTree archive).filesBelow "d" = [["a", "b"], ["a.txt"], ["out.zip"]] := by
  have hdir : (sampleTree archive).resolve .inspect "d" = .ok (.found ["d"] .directory) := rfl
  have hnames : (sampleTree archive).names ["d"] = ["a", "a.txt", "out.zip"] :=
    Disk.names_eq (show List.Perm ["out.zip", "a.txt", "a"] _ by decide) (by decide)
  have hinner : (sampleTree archive).names ["d", "a"] = ["b"] := Disk.names_eq (.refl _) (by decide)
  have hwalk : (sampleTree archive).walk 2 ["d", "a"] = [(["b"], .file "y".toUTF8)] := by
    rw [Disk.walk, hinner]
    rfl
  have hbelow : (sampleTree archive).entriesBelow ["d"] = (sampleTree archive).walk 3 ["d"] := rfl
  rw [Disk.filesBelow, hdir]
  dsimp only
  rw [hbelow, Disk.walk, hnames, List.flatMap_cons, Disk.visit_directory rfl, List.singleton_append, hwalk]
  rfl

theorem result_bundle_sampleTree :
    ∃ d', OnDisk.result (bundle "d" "d/out.zip" "/all/") (sampleTree "old".toUTF8) = (.ok 2, d') ∧
      d'.location? "d/out.zip" = some ["d", "out.zip"] := by
  have hdir : (sampleTree "old".toUTF8).isDirectory "d" = true := rfl
  have hbegin : OnDisk.result (Storage.write "d/out.zip" .empty) (sampleTree "old".toUTF8) =
      (.ok (), sampleTree .empty) := rfl
  simp only [bundle, OnDisk.result_bind, OnDisk.result_isDirectory, hdir, Bool.not_true, Bool.false_eq_true,
    if_false, hbegin, OnDisk.result_realPath?, OnDisk.result_filesBelow, filesBelow_sampleTree]
  exact ⟨_, rfl, rfl⟩

theorem bundle_archives_files_below_sample :
    ∃ (d' : Disk) (trimmed : String) (files : List (List String × ByteArray)),
      OnDisk.result (bundle "d" "d/out.zip" "/all/") (sampleTree "old".toUTF8) = (.ok 2, d') ∧
      Trims "/all/" trimmed ∧ (["a.txt"], "x".toUTF8) ∈ files ∧ (["a", "b"], "y".toUTF8) ∈ files ∧
      files.length = 2 ∧ files.Pairwise (fun f g => Disk.Before f.1 g.1) ∧
      d'.read "d/out.zip" =
        .ok (Zip.encode (files.map fun f => ⟨Text.joinWith "/" (trimmed :: f.1), f.2⟩)) := by
  obtain ⟨d', hrun, houtput⟩ := result_bundle_sampleTree
  obtain ⟨l, k, trimmed, files, entries, hl, hk, htrims, hmem, hsorted, rfl, -, hn, hread, -, -⟩ :=
    bundle_archives_files_below (sampleTree_wellFormed _) ⟨'a', by decide, by decide⟩ hrun
  have hdir : (sampleTree "old".toUTF8).location? "d" = some ["d"] := rfl
  obtain rfl : l = ["d"] := Option.some.inj (hl.symm.trans hdir)
  obtain rfl : k = ["d", "out.zip"] := Option.some.inj (hk.symm.trans houtput)
  refine ⟨d', trimmed, files, hrun, htrims, ?_, ?_, ?_, hsorted, hread⟩
  · exact (hmem _ _).mpr ⟨rfl, by decide⟩
  · exact (hmem _ _).mpr ⟨rfl, by decide⟩
  · simpa using hn.symm

end Scaffold.Archive
