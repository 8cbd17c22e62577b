import Scaffold.Command.Run
import Scaffold.Proofs.Archive.Bundling
import Scaffold.Proofs.Path.FileNames

namespace Scaffold

open Storage

namespace Storage.Disk

variable {d d' : Disk} {name : String}

theorem Leads.of_name {p : Purpose} {links : Nat} {l : Location} {t : Target} (hcurrent : name ≠ ".")
    (hparent : name ≠ "..") (hlink : ∀ target, d.get? (l ++ [name]) ≠ some (.link target))
    (h : Leads d p links false l [name] t) : t = .vacant (l ++ [name]) ∨ ∃ e, t = .found (l ++ [name]) e := by
  cases h with
  | arrived hreach =>
      cases hreach with
      | current => exact absurd rfl hcurrent
      | parent => exact absurd rfl hparent
      | enter _ _ hrest =>
          cases hrest
          exact .inr ⟨_, rfl⟩
      | vacant => exact .inl rfl
      | file => exact .inr ⟨_, rfl⟩
      | link _ hentry => exact absurd hentry (hlink _)
  | diverted hreach =>
      cases hreach with
      | current => exact absurd rfl hcurrent
      | parent => exact absurd rfl hparent
      | enter _ _ hrest => cases hrest
      | diverted _ hentry => exact absurd hentry (hlink _)

/-- What is written under a name is in the working directory, if there is no link. -/
theorem write_name {c : ByteArray} (hcomponents : Path.components name = [.name name]) (hslash : '/' ∉ name.toList)
    (hlink : ∀ target, d.get? (d.here ++ [name]) ≠ some (.link target)) (h : d.write name c = .ok d') :
    d.Replaces (d.here ++ [name]) c d' := by
  have hne (s : String) (hs : Path.components s ≠ [.name s]) : name ≠ s := fun heq => hs (heq ▸ hcomponents)
  have hslashed : isSlashed name = false := by
    rw [isSlashed, decide_eq_false_iff_not]
    exact fun hlast => hslash (List.mem_of_getLast? hlast)
  have hparts : nameParts name = [name] := by
    rw [nameParts, Text.split_eq_singleton hslash]
    simp [hne "" (by decide)]
  have hplace {t : Target} (ht : d.resolve .create name = .ok t) :
      t = .vacant (d.here ++ [name]) ∨ ∃ e, t = .found (d.here ++ [name]) e := by
    have hleads := (resolve_eq_ok_iff.mp ht).2
    rw [hslashed, hparts, startOf, Path.isAbsolute_eq_false hslash] at hleads
    exact hleads.of_name (hne "." (by decide)) (hne ".." (by decide)) hlink
  rw [write] at h
  split at h
  · cases h
  · next l old hresolve =>
      cases h
      obtain hvacant | ⟨e, hfound⟩ := hplace hresolve
      · cases hvacant
      · cases hfound
        exact replaces_set (.inr ⟨old, resolve_told hresolve⟩)
  · cases h
  · next l hresolve =>
      cases h
      obtain hvacant | ⟨e, hfound⟩ := hplace hresolve
      · cases hvacant
        exact replaces_set (.inl (resolve_told hresolve))
      · cases hfound

theorem Replaces.trans {l : Location} {b c : ByteArray} {d'' : Disk} (h : d.Replaces l b d')
    (h' : d'.Replaces l c d'') : d.Replaces l c d'' := by
  refine ⟨h'.here_eq.trans h.here_eq, h.before, fun k => ?_⟩
  rw [h'.entry, h.entry]
  by_cases hk : k = l <;> simp [hk]

end Storage.Disk

namespace Path

theorem exists_split_of_relative {path : String} (h : path ≠ "") (hrelative : isAbsolute path = false) :
    ∃ first rest, Text.split '/' path = first :: rest ∧ first ≠ "" := by
  obtain ⟨c, cs, hpath⟩ := List.exists_cons_of_ne_nil (show path.toList ≠ [] by simpa using h)
  have hc : c ≠ '/' := by
    rintro rfl
    simp [isAbsolute, hpath] at hrelative
  obtain ⟨piece, pieces, hrest⟩ := List.exists_cons_of_ne_nil (Text.splitChars_ne_nil '/' cs)
  refine ⟨String.ofList (c :: piece), pieces.map String.ofList, ?_, by simp⟩
  rw [Text.split, hpath, Text.splitChars_cons hc hrest, List.map_cons]

theorem components_ne_nil {path : String} (h : path ≠ "") : components path ≠ [] := by
  rw [components]
  cases habsolute : isAbsolute path with
  | true => simp
  | false =>
      obtain ⟨first, rest, hsplit, hfirst⟩ := exists_split_of_relative h habsolute
      by_cases hdot : first = "."
      · simp [hsplit, hdot]
      · by_cases hparent : first = ".."
        · simp [hsplit, hparent, ofPart]
        · simp [hsplit, hfirst, hdot, hparent, ofPart]

theorem exists_last_slash {path : String} (h : '/' ∈ path.toList) :
    ∃ before after, path = before ++ "/" ++ after ∧ '/' ∉ after.toList := by
  obtain ⟨after, before, hpath, hafter⟩ := List.eq_append_cons_of_mem (List.mem_reverse.mpr h)
  refine ⟨String.ofList before.reverse, String.ofList after.reverse, ?_, by simpa using hafter⟩
  have hchars : path.toList = before.reverse ++ '/' :: after.reverse := by
    rw [← List.reverse_reverse path.toList, hpath]
    simp
  apply String.toList_inj.mp
  simp [hchars]

end Path

namespace Archive

theorem trimSlashes_eq_self {s : String} (h : '/' ∉ s.toList) : trimSlashes s = s := by
  have hdrop {cs : List Char} (hcs : '/' ∉ cs) : cs.dropWhile (· = '/') = cs := by
    cases cs with
    | nil => rfl
    | cons c cs =>
        have hc : c ≠ '/' := fun hc => hcs (hc ▸ .head _)
        rw [List.dropWhile_cons_of_neg (by simpa using hc)]
  rw [trimSlashes, hdrop h, hdrop (by simpa using h), List.reverse_reverse, String.ofList_toList]

theorem exists_entryName (folder : String) (names : List String) (h : trimSlashes folder ≠ "") :
    ∃ below, entryName folder names = Text.joinWith "/" (trimSlashes folder :: below) := by
  refine ⟨names.filter fun p => p ≠ "", ?_⟩
  rw [entryName, List.filter_cons_of_pos (by simpa using h)]

theorem not_mem_archive {name : String} (h : '/' ∉ name.toList) : '/' ∉ (name ++ ".zip").toList := by
  rw [String.toList_append, List.mem_append]
  rintro (hmem | hmem)
  · exact h hmem
  · exact absurd hmem (by decide)

theorem ofPart_archive (name : String) : Path.ofPart (name ++ ".zip") = some (.name (name ++ ".zip")) := by
  have hne (s : String) (hs : s.toList.length ≤ 2) : name ++ ".zip" ≠ s := by
    rintro rfl
    simp at hs
  simp [Path.ofPart, hne "" (by decide), hne "." (by decide), hne ".." (by decide)]

theorem components_archive {name : String} (h : '/' ∉ name.toList) :
    Path.components (name ++ ".zip") = [.name (name ++ ".zip")] :=
  Path.components_of_name (not_mem_archive h) (by simp)

theorem components_archive_below (before : String) {after : String} (h : '/' ∉ after.toList) :
    Path.components (before ++ "/" ++ after ++ ".zip") =
      Path.components (before ++ "/") ++ [.name (after ++ ".zip")] := by
  rw [String.append_assoc, Path.components_slash, Text.split_eq_singleton (not_mem_archive h),
    List.filterMap_cons_some (ofPart_archive after), List.filterMap_nil]

/-- The archive is named like the folder, and by that name alone, exactly if the folder has no slash. -/
theorem components_archive_iff (folder : String) :
    Path.components (folder ++ ".zip") = [.name (trimSlashes folder ++ ".zip")] ↔ '/' ∉ folder.toList := by
  constructor
  · intro h hslash
    obtain ⟨before, after, rfl, hafter⟩ := Path.exists_last_slash hslash
    obtain ⟨c, cs, hbefore⟩ := List.exists_cons_of_ne_nil
      (Path.components_ne_nil (show before ++ "/" ≠ "" by simp))
    rw [components_archive_below before hafter, hbefore] at h
    simp at h
  · intro h
    rw [trimSlashes_eq_self h]
    exact components_archive h

end Archive

namespace Command

variable {args : PackageArgs} {d d' : Disk} {folder : String}

/-- The folder that a run takes is not only slashes, and it has none if it is the name of the directory. -/
theorem accepted_of_folderFor? (h : OnDisk.result (folderFor? args) d = (some folder, d)) :
    Archive.trimSlashes folder ≠ "" ∧ (args.folder = none → '/' ∉ folder.toList) := by
  rw [folderFor?] at h
  cases hgiven : args.folder with
  | some text =>
      simp only [hgiven, OnDisk.result_bind, OnDisk.result_pure, Prod.mk.injEq, and_true,
        Option.filter_eq_some_iff, decide_eq_true_eq] at h
      exact ⟨h.2, fun hnone => by cases hnone⟩
  | none =>
      simp only [hgiven, OnDisk.result_bind, OnDisk.result_pure, OnDisk.result_realPath?, Prod.mk.injEq,
        and_true, Option.filter_eq_some_iff, decide_eq_true_eq] at h
      obtain ⟨hbind, haccepted⟩ := h
      obtain ⟨real, -, hname⟩ := Option.bind_eq_some_iff.mp hbind
      exact ⟨haccepted, fun _ hslash => (Path.mem_fileName? hname hslash).1 rfl⟩

theorem result_runPackage_of_folder (h : OnDisk.result (folderFor? args) d = (some folder, d)) :
    OnDisk.result (runPackage args) d =
      match OnDisk.result (Archive.bundle args.path (args.output.getD (folder ++ ".zip")) folder) d with
      | (.error e, d') => (.failed e.message, d')
      | (.ok n, d') => (.success ("Packaged " ++ toString n ++ " files into " ++
          args.output.getD (folder ++ ".zip") ++ "\n"), d') := by
  rw [runPackage, OnDisk.result_bind, h]
  simp only [OnDisk.result_bind]
  rcases OnDisk.result (Archive.bundle args.path (args.output.getD (folder ++ ".zip")) folder) d with ⟨r, d'⟩
  cases r <;> rfl

/-- A bundle that is made under a name without slashes is all that is new. -/
theorem exists_entries_of_bundle {dir output : String} {n : Nat} (hfolder : Archive.trimSlashes folder ≠ "")
    (h : OnDisk.result (Archive.bundle dir output folder) d = (.ok n, d')) :
    ∃ entries : List Archive.Entry, n = entries.length ∧ d'.read output = .ok (Archive.Zip.encode entries) ∧
      (∀ e ∈ entries, ∃ below, e.name = Text.joinWith "/" (Archive.trimSlashes folder :: below)) ∧
      (Path.components output = [.name output] → '/' ∉ output.toList →
        (∀ target, d.get? (d.here ++ [output]) ≠ some (.link target)) →
          d.Replaces (d.here ++ [output]) (Archive.Zip.encode entries) d') := by
  obtain ⟨-, begun, listed, entries, hbegin, hentries, hfinish, hn⟩ := Archive.result_bundle_ok h
  obtain ⟨k, -, harchive⟩ := Disk.write_replaces hbegin
  rw [Disk.realPath?_eq_map, Disk.location?_eq_some harchive] at hentries
  obtain ⟨rfl, files, rfl, -⟩ := Archive.result_entriesFor_ok hentries
  refine ⟨_, hn, Disk.read_written hfinish, fun e he => ?_, fun hcomponents hslash hlink => ?_⟩
  · obtain ⟨f, -, rfl⟩ := List.mem_map.mp he
    dsimp only
    exact Archive.exists_entryName folder f.1 hfolder
  · have hbegun := Disk.write_name hcomponents hslash hlink hbegin
    -- the file that was begun is no link, so that it is the one that is written at the end
    have hnolink (target : String) : listed.get? (listed.here ++ [output]) ≠ some (.link target) := by
      rw [hbegun.here_eq, hbegun.entry, if_pos rfl]
      simp
    have hfinished := Disk.write_name hcomponents hslash hnolink hfinish
    rw [hbegun.here_eq] at hfinished
    exact hbegun.trans hfinished

/-- Without a path for it, the archive is made at the folder with `.zip` after it, as if this path was given. That is a
name in the working directory, made of the folder as it stands in the archive, exactly if the folder has no slash. The
name of a directory has none; else what stands before the last slash is the directory where the archive is made. -/
theorem runPackage_default_output (houtput : args.output = none)
    (h : OnDisk.result (folderFor? args) d = (some folder, d)) :
    OnDisk.result (runPackage args) d =
      OnDisk.result (runPackage { args with output := some (folder ++ ".zip") }) d ∧
    (args.folder = none → '/' ∉ folder.toList) ∧
    (Path.components (folder ++ ".zip") = [.name (Archive.trimSlashes folder ++ ".zip")] ↔
      '/' ∉ folder.toList) ∧
    (∀ before after, folder = before ++ "/" ++ after → '/' ∉ after.toList →
      Path.components (folder ++ ".zip") = Path.components (before ++ "/") ++ [.name (after ++ ".zip")]) ∧
    ∀ r d', OnDisk.result (runPackage args) d = (r, d') → r.exitCode = 0 →
      ∃ entries : List Archive.Entry, d'.read (folder ++ ".zip") = .ok (Archive.Zip.encode entries) ∧
        (∀ e ∈ entries, ∃ below, e.name = Text.joinWith "/" (Archive.trimSlashes folder :: below)) ∧
        ('/' ∉ folder.toList →
          (∀ target, d.get? (d.here ++ [Archive.trimSlashes folder ++ ".zip"]) ≠ some (.link target)) →
            d.Replaces (d.here ++ [Archive.trimSlashes folder ++ ".zip"]) (Archive.Zip.encode entries) d') := by
  obtain ⟨haccepted, hderived⟩ := accepted_of_folderFor? h
  have hexplicit : OnDisk.result (folderFor? { args with output := some (folder ++ ".zip") }) d =
      (some folder, d) := h
  refine ⟨?_, hderived, Archive.components_archive_iff folder, ?_, fun r d' hrun hcode => ?_⟩
  · rw [result_runPackage_of_folder h, result_runPackage_of_folder hexplicit, houtput]
    rfl
  · rintro before after rfl hafter
    exact Archive.components_archive_below before hafter
  · rw [result_runPackage_of_folder h, houtput, Option.getD_none] at hrun
    rcases hbundle : OnDisk.result (Archive.bundle args.path (folder ++ ".zip") folder) d with ⟨result, made⟩
    rw [hbundle] at hrun
    cases result with
    | error e =>
        cases hrun
        cases hcode
    | ok n =>
        cases hrun
        obtain ⟨entries, -, hread, hnames, hplace⟩ := exists_entries_of_bundle haccepted hbundle
        refine ⟨entries, hread, hnames, fun hslash hlink => ?_⟩
        rw [Archive.trimSlashes_eq_self hslash] at hlink ⊢
        exact hplace (Archive.components_archive hslash) (Archive.not_mem_archive hslash) hlink

def sampleDisk (archive : List (Location × Storage.Entry)) : Disk :=
  ⟨[(["d"], .directory), (["d", "a.txt"], .file "x".toUTF8)] ++ archive, []⟩

theorem filesBelow_sampleDisk :
    (sampleDisk [(["all.zip"], .file .empty)]).filesBelow "d" = [["a.txt"]] ∧
      (sampleDisk [(["d", ".zip"], .file .empty)]).filesBelow "d" = [[".zip"], ["a.txt"]] := by
  have hdir (archive : List (Location × Storage.Entry)) :
      (sampleDisk archive).resolve .inspect "d" = .ok (.found ["d"] .directory) := rfl
  have houtside : (sampleDisk [(["all.zip"], .file .empty)]).names ["d"] = ["a.txt"] :=
    Disk.names_eq (.refl _) (by decide)
  have hinside : (sampleDisk [(["d", ".zip"], .file .empty)]).names ["d"] = [".zip", "a.txt"] :=
    Disk.names_eq (show List.Perm ["a.txt", ".zip"] _ by decide) (by decide)
  constructor
  · rw [Disk.filesBelow, hdir]
    dsimp only
    rw [Disk.entriesBelow, show Disk.depth _ = 2 from rfl, Disk.walk, houtside]
    rfl
  · rw [Disk.filesBelow, hdir]
    dsimp only
    rw [Disk.entriesBelow, show Disk.depth _ = 2 from rfl, Disk.walk, hinside]
    rfl

theorem result_runPackage_sampleDisk :
    ∃ d', OnDisk.result (runPackage ⟨"d", none, some "all"⟩) (sampleDisk []) =
      (.success "Packaged 1 files into all.zip\n", d') := by
  have hfolder : OnDisk.result (folderFor? ⟨"d", none, some "all"⟩) (sampleDisk []) =
      (some "all", sampleDisk []) := rfl
  have hdir : (sampleDisk []).isDirectory "d" = true := rfl
  have hbegin : OnDisk.result (Storage.write "all.zip" .empty) (sampleDisk []) =
      (.ok (), sampleDisk [(["all.zip"], .file .empty)]) := rfl
  have houtput : "all" ++ ".zip" = "all.zip" := rfl
  rw [result_runPackage_of_folder hfolder]
  simp only [Option.getD_none, houtput, Archive.bundle, OnDisk.result_bind, OnDisk.result_isDirectory, hdir,
    Bool.not_true, Bool.false_eq_true, if_false, hbegin, OnDisk.result_realPath?, OnDisk.result_filesBelow,
    filesBelow_sampleDisk.1]
  exact ⟨_, rfl⟩

theorem runPackage_default_output_plainFolder :
    OnDisk.result (folderFor? ⟨"d", none, some "all"⟩) (sampleDisk []) = (some "all", sampleDisk []) ∧
    ∃ (d' : Disk) (entries : List Archive.Entry),
      OnDisk.result (runPackage ⟨"d", none, some "all"⟩) (sampleDisk []) =
        (.success "Packaged 1 files into all.zip\n", d') ∧
      (sampleDisk []).Replaces ["all.zip"] (Archive.Zip.encode entries) d' ∧
      ∀ e ∈ entries, ∃ below, e.name = Text.joinWith "/" ("all" :: below) := by
  have hfolder : OnDisk.result (folderFor? ⟨"d", none, some "all"⟩) (sampleDisk []) =
      (some "all", sampleDisk []) := rfl
  obtain ⟨d', hrun⟩ := result_runPackage_sampleDisk
  obtain ⟨-, -, -, -, hmade⟩ := runPackage_default_output rfl hfolder
  obtain ⟨entries, -, hnames, hplace⟩ := hmade _ d' hrun rfl
  exact ⟨hfolder, d', entries, hrun, hplace (by decide) (fun target h => by cases h), hnames⟩

/-- With a slash after the folder, the archive is made in the directory of this name. -/
theorem runPackage_default_output_closedFolder :
    ∃ d', OnDisk.result (runPackage ⟨"d", none, some "d/"⟩) (sampleDisk []) =
        (.success "Packaged 1 files into d/.zip\n", d') ∧ Archive.trimSlashes "d/" = "d" ∧
      d'.location? "d/.zip" = some ["d", ".zip"] ∧ d'.get? ["d.zip"] = none := by
  have hfolder : OnDisk.result (folderFor? ⟨"d", none, some "d/"⟩) (sampleDisk []) =
      (some "d/", sampleDisk []) := rfl
  have hdir : (sampleDisk []).isDirectory "d" = true := rfl
  have hbegin : OnDisk.result (Storage.write "d/.zip" .empty) (sampleDisk []) =
      (.ok (), sampleDisk [(["d", ".zip"], .file .empty)]) := rfl
  have houtput : "d/" ++ ".zip" = "d/.zip" := rfl
  rw [result_runPackage_of_folder hfolder]
  simp only [Option.getD_none, houtput, Archive.bundle, OnDisk.result_bind, OnDisk.result_isDirectory, hdir,
    Bool.not_true, Bool.false_eq_true, if_false, hbegin, OnDisk.result_realPath?, OnDisk.result_filesBelow,
    filesBelow_sampleDisk.2]
  exact ⟨_, rfl, rfl, rfl, rfl⟩

end Command

end Scaffold
