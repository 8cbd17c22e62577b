import Scaffold.Proofs.Generation.Attempts
import Scaffold.Proofs.Storage.Variation

namespace Scaffold.Generation

open Storage

variable {config : Config} {path : String} {o : Outcome} {d d' e : Disk}

theorem Writes.unique {d'' : Disk} (h : Writes config o d d') (h' : Writes config o d d'') : d' = d'' := by
  obtain ⟨made, tested, hdirs, htest, hreport⟩ := h
  obtain ⟨made', tested', hdirs', htest', hreport'⟩ := h'
  obtain rfl := congrArg Prod.fst (hdirs.symm.trans hdirs')
  obtain rfl := Except.ok.inj (htest.symm.trans htest')
  exact Except.ok.inj (hreport.symm.trans hreport')

theorem result_generate_eq_ok_iff : OnDisk.result (generate config path) d = (.ok o, d') ↔
    (∃ text outline c, d.read path = .ok text.toUTF8 ∧ Analysis.Outlines path text outline c ∧
      o = outcomeOf config outline c) ∧ Writes config o d d' := by
  rcases result_generate_cases config path d with ⟨text, outline, c, hread, houtline, hresult⟩ | ⟨e, hresult, hnone, -⟩
  · rw [hresult]
    obtain ⟨d'', -, ⟨hok, hwrites⟩ | ⟨e, herror, hwrites, -⟩⟩ :=
      result_writeFiles_cases config (outcomeOf config outline c) d
    · rw [hok, Prod.mk.injEq, Except.ok.injEq]
      constructor
      · rintro ⟨rfl, rfl⟩
        exact ⟨⟨text, outline, c, hread, houtline, rfl⟩, hwrites⟩
      · rintro ⟨⟨text', outline', c', hread', houtline', rfl⟩, hwrites'⟩
        obtain rfl := String.toByteArray_inj.mp (Except.ok.inj (hread.symm.trans hread'))
        obtain ⟨rfl, rfl⟩ := houtline.unique houtline'
        exact ⟨rfl, hwrites.unique hwrites'⟩
    · rw [herror]
      constructor
      · intro h
        cases h
      · rintro ⟨⟨text', outline', c', hread', houtline', rfl⟩, hwrites'⟩
        obtain rfl := String.toByteArray_inj.mp (Except.ok.inj (hread.symm.trans hread'))
        obtain ⟨rfl, rfl⟩ := houtline.unique houtline'
        exact absurd hwrites' (hwrites d')
  · rw [hresult]
    constructor
    · intro h
      cases h
    · rintro ⟨⟨text, outline, c, hread, houtline, -⟩, -⟩
      exact absurd houtline (hnone text outline c hread)

theorem Writes.extends (h : Writes config o d d') : d.Extends d' := by
  obtain ⟨made, tested, hdirs, htest, hreport⟩ := h
  have hmade := Disk.makeDirs_addsDirectories config.effectiveOutputDir d
  rw [hdirs] at hmade
  obtain ⟨_, htested, -⟩ := Disk.write_replaces htest
  obtain ⟨_, hreported, -⟩ := Disk.write_replaces hreport
  exact (hmade.extends.trans htested.extends).trans hreported.extends

namespace Writes

theorem read (h : Writes config o d d') {c : ByteArray} (hread : d.read path = .ok c)
    (hapart : d'.location? path ∉ [d'.location? o.testFile, d'.location? o.reportFile]) : d'.read path = .ok c := by
  obtain ⟨made, tested, hdirs, htest, hreport⟩ := h
  have hmade := Disk.makeDirs_addsDirectories config.effectiveOutputDir d
  rw [hdirs] at hmade
  exact Disk.read_of_two hmade htest hreport hread hapart

/-- The same files can be written again, and then nothing changes. -/
theorem again (h : Writes config o d d') (hapart : d'.location? o.testFile ≠ d'.location? o.reportFile) :
    Writes config o d' d' := by
  obtain ⟨made, tested, hdirs, htest, hreport⟩ := h
  obtain ⟨_, htested, -⟩ := Disk.write_replaces htest
  obtain ⟨_, hreported, -⟩ := Disk.write_replaces hreport
  have hdirectory : config.effectiveOutputDir = "" ∨ d'.isDirectory config.effectiveOutputDir = true := by
    refine (Disk.makeDirsFrom_ok hdirs).imp_right fun hmade => ?_
    obtain ⟨l, hl⟩ := Disk.exists_of_isDirectory hmade
    exact Disk.isDirectory_iff.mpr ⟨l, (htested.extends.trans hreported.extends).resolve_directory hl⟩
  exact ⟨d', d', Disk.makeDirs_same hdirectory, Disk.write_same (Disk.read_first_of_two htest hreport hapart),
    Disk.write_same (Disk.read_written hreport)⟩

/-- The files come to places that were free before. There it does not matter what is on the disk. -/
theorem anew (h : Writes config o d d') : ∃ test report, d'.location? o.testFile = some test ∧
    d'.location? o.reportFile = some report ∧ (∀ k ∈ [test, report], d.IsFree k) ∧
    ∀ e, d.VariesAt [test, report] e → ∃ e', Writes config o e e' ∧ d'.VariesAt [] e' := by
  obtain ⟨made, tested, hdirs, htest, hreport⟩ := h
  obtain ⟨test, t, htarget, hplace, -, htestFile⟩ := Disk.exists_of_write htest
  obtain ⟨report, t', htarget', hplace', -, hreportFile⟩ := Disk.exists_of_write hreport
  obtain ⟨l, htested, -⟩ := Disk.write_replaces htest
  obtain ⟨_, hreported, -⟩ := Disk.write_replaces hreport
  have hmade := Disk.makeDirs_addsDirectories config.effectiveOutputDir d
  rw [hdirs] at hmade
  have hfreeReport : tested.IsFree report := hplace'.isFree htarget'
  have hfree : ∀ k ∈ [test, report], made.IsFree k := by
    simp only [List.forall_mem_cons, List.not_mem_nil, false_implies, implies_true, and_true]
    exact ⟨hplace.isFree htarget, htested.isFree_before hfreeReport⟩
  refine ⟨test, report, hreported.extends.location? htestFile, hreportFile, fun k hk => hmade.isFree (hfree k hk), ?_⟩
  intro e hvaries
  obtain ⟨made', hdirs', hmade'⟩ := hvaries.makeDirs hdirs hfree
  obtain ⟨tested', htest', htested'⟩ := hmade'.write hfree htest htestFile
  obtain ⟨e', hreport', he'⟩ := htested'.write (by simpa using hfreeReport) hreport hreportFile
  exact ⟨e', ⟨made', tested', hdirs', htest', hreport'⟩, he'⟩

end Writes

/-- After a run that succeeded, another one succeeds with the same outcome and leaves the disk exactly as it is.
And what was in the places of the two files before the run, if there was anything, makes no difference to the
outcome or to the disk after it. -/
theorem generate_repeats (h : OnDisk.result (generate config path) d = (.ok o, d'))
    (hapart : [d'.location? path, d'.location? o.testFile, d'.location? o.reportFile].Nodup) :
    OnDisk.result (generate config path) d' = (.ok o, d') ∧
    ∃ test report, d'.location? o.testFile = some test ∧ d'.location? o.reportFile = some report ∧
      ∀ e, d.VariesAt [test, report] e → ∃ e', OnDisk.result (generate config path) e = (.ok o, e') ∧
        e'.here = d'.here ∧ ∀ l, e'.get? l = d'.get? l := by
  obtain ⟨⟨text, outline, c, hread, houtline, ho⟩, hwrites⟩ := result_generate_eq_ok_iff.mp h
  obtain ⟨test, report, htest, hreport, hfree, hanew⟩ := hwrites.anew
  obtain ⟨hsource, hfiles⟩ := List.nodup_cons.mp hapart
  have hfiles : d'.location? o.testFile ≠ d'.location? o.reportFile := by simpa using hfiles
  refine ⟨?_, test, report, htest, hreport, fun e hvaries => ?_⟩
  · have hread' := hwrites.read hread hsource
    exact result_generate_eq_ok_iff.mpr ⟨⟨text, outline, c, hread', houtline, ho⟩, hwrites.again hfiles⟩
  · obtain ⟨e', hwrites', hsame⟩ := hanew e hvaries
    obtain ⟨l, hl⟩ := Disk.read_eq_ok_iff.mp hread
    have hlocation := hwrites.extends.location? (Disk.location?_eq_some hl)
    have hplace : l ∉ [test, report] := by simpa [hlocation, htest, hreport] using hsource
    have hread' := hvaries.read hfree hplace hl
    refine ⟨e', ?_, hsame.here_eq, fun l => hsame.entry l List.not_mem_nil⟩
    exact result_generate_eq_ok_iff.mpr ⟨⟨text, outline, c, hread', houtline, ho⟩, hwrites'⟩

def scriptOutline : Outline := ⟨.javaScript, "calc.js", [⟨"f", 1, [], none, false⟩], []⟩

def staleDisk : Disk :=
  ⟨[(["calc.js"], .file "function f(a) {}\n".toUTF8), (["test-report.md"], .file "old\n".toUTF8)], []⟩

def otherDisk : Disk :=
  ⟨[(["calc.js"], .file "function f(a) {}\n".toUTF8), (["calc.test.js"], .file "old\n".toUTF8)], []⟩

theorem staleDisk_variesAt : staleDisk.VariesAt [["calc.test.js"], ["test-report.md"]] otherDisk := by
  refine ⟨rfl, fun l hl => ?_, fun l hl => ?_⟩
  · simp only [List.mem_cons, List.not_mem_nil, or_false, not_or] at hl
    simp only [Disk.get?, staleDisk, otherDisk, Disk.lookup_cons_ite, if_neg hl.1, if_neg hl.2]
  · simp only [List.mem_cons, List.not_mem_nil, or_false] at hl
    obtain rfl | rfl := hl
    · exact .inr ⟨_, rfl⟩
    · exact .inl rfl

theorem generate_repeats_sample : ∃ d' e',
    OnDisk.result (generate .default "calc.js") staleDisk =
        (.ok ⟨scriptOutline, .jest, "./calc.test.js", "./test-report.md"⟩, d') ∧
      OnDisk.result (generate .default "calc.js") d' =
        (.ok ⟨scriptOutline, .jest, "./calc.test.js", "./test-report.md"⟩, d') ∧
      OnDisk.result (generate .default "calc.js") otherDisk =
        (.ok ⟨scriptOutline, .jest, "./calc.test.js", "./test-report.md"⟩, e') ∧
      ∀ l, e'.get? l = d'.get? l := by
  have hrun : OnDisk.result (generate .default "calc.js") staleDisk =
      (.ok ⟨scriptOutline, .jest, "./calc.test.js", "./test-report.md"⟩,
        (OnDisk.result (generate .default "calc.js") staleDisk).2) := rfl
  generalize hd' : (OnDisk.result (generate .default "calc.js") staleDisk).2 = d' at hrun
  have hsource : d'.location? "calc.js" = some ["calc.js"] := by rw [← hd']; rfl
  have htest : d'.location? "./calc.test.js" = some ["calc.test.js"] := by rw [← hd']; rfl
  have hreport : d'.location? "./test-report.md" = some ["test-report.md"] := by rw [← hd']; rfl
  obtain ⟨hagain, test, report, htest', hreport', hanew⟩ :=
    generate_repeats hrun (by rw [hsource, htest, hreport]; decide)
  obtain rfl := Option.some.inj (htest.symm.trans htest')
  obtain rfl := Option.some.inj (hreport.symm.trans hreport')
  obtain ⟨e', hother, -, hsame⟩ := hanew otherDisk staleDisk_variesAt
  exact ⟨d', e', hrun, hagain, hother, hsame⟩

end Scaffold.Generation
