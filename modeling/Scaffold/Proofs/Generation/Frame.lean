import Scaffold.Generation
import Scaffold.Proofs.Path.Steps
import Scaffold.Proofs.Storage.Growth
import Scaffold.Proofs.Storage.Runs

namespace Scaffold

open Storage

theorem Storage.OnDisk.result_readText_ok {path text : String} {d d' : Disk}
    (h : OnDisk.result (readText path) d = (.ok text, d')) : d' = d ∧ d.read path = .ok text.toUTF8 := by
  rw [readText, result_bind, result_read] at h
  cases hread : d.read path with
  | error fault => simp [hread] at h
  | ok bytes =>
      by_cases hvalid : bytes.IsValidUTF8
      · simp only [hread, String.fromUTF8?, dif_pos hvalid, result_pure, Prod.mk.injEq, Except.ok.injEq] at h
        obtain ⟨rfl, rfl⟩ := h
        exact ⟨rfl, rfl⟩
      · simp [hread, String.fromUTF8?, hvalid] at h

theorem Analysis.result_outlineFile_ok {path : String} {o : Outline} {d d' : Disk}
    (h : OnDisk.result (outlineFile path) d = (.ok o, d')) :
    d' = d ∧ ∃ text events, d.read path = .ok text.toUTF8 ∧
      outline? (.ofPath path) path text = some ⟨.ok o, events⟩ := by
  rw [outlineFile, OnDisk.result_bind] at h
  rcases hread : OnDisk.result (readText path) d with ⟨r, e⟩
  rw [hread] at h
  cases r with
  | error fault => simp at h
  | ok text =>
      obtain ⟨rfl, htext⟩ := OnDisk.result_readText_ok hread
      cases houtline : outline? (.ofPath path) path text with
      | none => simp [houtline] at h
      | some logged =>
          obtain ⟨value, events⟩ := logged
          simp only [houtline, OnDisk.result_bind, OnDisk.result_forM_log] at h
          cases value with
          | error e => simp at h
          | ok o' =>
              simp only [OnDisk.result_pure, Prod.mk.injEq, Except.ok.injEq] at h
              exact ⟨h.2.symm, text, events, htext, by rw [houtline, h.1]⟩

namespace Generation

/-- Both files are written one after the other, after the directory was made. -/
theorem result_writeFiles_ok {config : Config} {o o' : Outcome} {d d' : Disk}
    (h : OnDisk.result (writeFiles config o) d = (.ok o', d')) :
    o' = o ∧ ∃ made tested, d.AddsDirectories made ∧
      made.write o.testFile (o.convention.render o.outline).toUTF8 = .ok tested ∧
      tested.write o.reportFile (Report.Markdown.render config.docstringLimit o.outline).toUTF8 = .ok d' := by
  have hmade := Disk.makeDirs_addsDirectories config.effectiveOutputDir d
  simp only [writeFiles, writeText, OnDisk.result_bind, OnDisk.result_makeDirs] at h
  generalize (d.makeDirs config.effectiveOutputDir).1 = made at h hmade
  cases hdir : (d.makeDirs config.effectiveOutputDir).2 with
  | error fault => simp [hdir] at h
  | ok _ =>
      simp only [hdir, OnDisk.result_bind] at h
      rcases htest : OnDisk.result (Storage.write o.testFile (o.convention.render o.outline).toUTF8) made
        with ⟨r, tested⟩
      rw [htest] at h
      cases r with
      | error fault => simp at h
      | ok _ =>
          simp only [OnDisk.result_bind] at h
          rcases hreport : OnDisk.result (Storage.write o.reportFile
            (Report.Markdown.render config.docstringLimit o.outline).toUTF8) tested with ⟨r, reported⟩
          rw [hreport] at h
          cases r with
          | error fault => simp at h
          | ok _ =>
              simp only [OnDisk.result_bind, OnDisk.result_log, OnDisk.result_pure, Prod.mk.injEq,
                Except.ok.injEq] at h
              obtain ⟨rfl, rfl⟩ := h
              exact ⟨rfl, made, tested, hmade, (OnDisk.result_write_ok_iff _).mp htest,
                (OnDisk.result_write_ok_iff _).mp hreport⟩

theorem result_generate_ok {config : Config} {path : String} {o : Outcome} {d d' : Disk}
    (h : OnDisk.result (generate config path) d = (.ok o, d')) :
    ∃ text events, d.read path = .ok text.toUTF8 ∧
      Analysis.outline? (.ofPath path) path text = some ⟨.ok o.outline, events⟩ ∧
      Convention.ofLanguage? o.outline.language = some o.convention ∧
      o = outcomeOf config o.outline o.convention ∧
      OnDisk.result (writeFiles config o) d = (.ok o, d') := by
  rw [generate, OnDisk.result_bind] at h
  rcases houtline : OnDisk.result (Analysis.outlineFile path) d with ⟨r, e⟩
  rw [houtline] at h
  cases r with
  | error fault => simp at h
  | ok outline =>
      obtain ⟨rfl, text, events, htext, hevents⟩ := Analysis.result_outlineFile_ok houtline
      cases hconvention : Convention.ofLanguage? outline.language with
      | none => simp [hconvention] at h
      | some convention =>
          simp only [hconvention] at h
          obtain ⟨rfl, -⟩ := result_writeFiles_ok h
          exact ⟨text, events, htext, hevents, hconvention, rfl, h⟩

theorem isBelow_reportFile {config : Config} (hvalid : config.invalid? = none)
    (hrelative : Path.isAbsolute config.reportFile = false)
    (hclimb : .parent ∉ Path.components config.reportFile) :
    Path.IsBelow (Path.join config.effectiveOutputDir config.reportFile) config.effectiveOutputDir := by
  refine Path.isBelow_join hrelative hclimb ?_
  cases hname : Path.fileName? config.reportFile with
  | some name => rfl
  | none =>
      rw [Config.invalid?, hname] at hvalid
      split at hvalid <;> simp at hvalid

/-- After a run, the report is in its file. The tests are in theirs, the source file is as it was and the
report lies in its directory, as far as the settings do not make these files the same or lead elsewhere.
Nothing else is changed, but directories may be new. -/
theorem generate_writes_only_outputs {config : Config} {path : String} {o : Outcome} {d d' : Disk}
    (hvalid : config.invalid? = none) (h : OnDisk.result (generate config path) d = (.ok o, d')) :
    (∃ text events, d.read path = .ok text.toUTF8 ∧
      Analysis.outline? (.ofPath path) path text = some ⟨.ok o.outline, events⟩ ∧
      Convention.ofLanguage? o.outline.language = some o.convention ∧
      (d'.location? path ∉ [d'.location? o.testFile, d'.location? o.reportFile] →
        d'.read path = .ok text.toUTF8)) ∧
    (d'.location? o.testFile ≠ d'.location? o.reportFile →
      d'.read o.testFile = .ok (o.convention.render o.outline).toUTF8) ∧
    d'.read o.reportFile = .ok (Report.Markdown.render config.docstringLimit o.outline).toUTF8 ∧
    Path.IsBelow o.testFile config.effectiveOutputDir ∧
    (Path.isAbsolute config.reportFile = false → .parent ∉ Path.components config.reportFile →
      Path.IsBelow o.reportFile config.effectiveOutputDir) ∧
    ∀ l, some l ∉ [d'.location? o.testFile, d'.location? o.reportFile] →
      d'.get? l = d.get? l ∨ d.get? l = none ∧ d'.get? l = some .directory := by
  obtain ⟨text, events, htext, hevents, hconvention, ho, hwrite⟩ := result_generate_ok h
  obtain ⟨-, made, tested, hmade, htest, hreport⟩ := result_writeFiles_ok hwrite
  refine ⟨⟨text, events, htext, hevents, hconvention, ?_⟩, Disk.read_first_of_two htest hreport,
    Disk.read_written hreport, ?_, fun hrelative hclimb => ?_, Disk.get?_of_two hmade htest hreport⟩
  · exact Disk.read_of_two hmade htest hreport htext
  · rw [ho]
    exact Naming.isBelow_testFile _ _ _
  · rw [ho]
    exact isBelow_reportFile hvalid hrelative hclimb

def sampleDisk : Disk := ⟨[(["calc.js"], .file "function f(a) {}\n".toUTF8)], []⟩

def sampleOutline : Outline := ⟨.javaScript, "calc.js", [⟨"f", 1, [], none, false⟩], []⟩

theorem generate_writes_only_outputs_sample :
    ∃ d', OnDisk.result (generate ⟨some "out", "report.md", 100⟩ "calc.js") sampleDisk =
        (.ok ⟨sampleOutline, .jest, "out/calc.test.js", "out/report.md"⟩, d') ∧
      d'.read "calc.js" = sampleDisk.read "calc.js" ∧
      d'.read "out/calc.test.js" = .ok (Convention.render .jest sampleOutline).toUTF8 ∧
      d'.read "out/report.md" = .ok (Report.Markdown.render 100 sampleOutline).toUTF8 ∧
      Path.IsBelow "out/report.md" "out" ∧ d'.get? ["src"] = none := by
  have hrun : OnDisk.result (generate ⟨some "out", "report.md", 100⟩ "calc.js") sampleDisk =
      (.ok ⟨sampleOutline, .jest, "out/calc.test.js", "out/report.md"⟩,
        (OnDisk.result (generate ⟨some "out", "report.md", 100⟩ "calc.js") sampleDisk).2) := rfl
  generalize hd' : (OnDisk.result (generate ⟨some "out", "report.md", 100⟩ "calc.js") sampleDisk).2 = d' at hrun
  have hsource : d'.location? "calc.js" = some ["calc.js"] := by rw [← hd']; rfl
  have htest : d'.location? "out/calc.test.js" = some ["out", "calc.test.js"] := by rw [← hd']; rfl
  have hreport : d'.location? "out/report.md" = some ["out", "report.md"] := by rw [← hd']; rfl
  obtain ⟨⟨text, events, htext, -, -, hkept⟩, htested, hreported, -, hbelow, hothers⟩ :=
    generate_writes_only_outputs (by decide) hrun
  simp only [hsource, htest, hreport] at hkept htested hothers
  refine ⟨d', hrun, ?_, htested (by decide), hreported, hbelow (by decide) (by decide), ?_⟩
  · rw [htext]
    exact hkept (by decide)
  · obtain hsame | ⟨-, hnew⟩ := hothers ["src"] (by decide)
    · rw [hsame]
      rfl
    · rw [← hd'] at hnew
      cases hnew

/-- With the name of the source file for the report, settings are usable, and the source file is lost. -/
theorem generate_replaces_source :
    ∃ (config : Config) (d d' : Disk) (o : Outcome), config.invalid? = none ∧
      OnDisk.result (generate config "calc.js") d = (.ok o, d') ∧ d'.read "calc.js" ≠ d.read "calc.js" := by
  refine ⟨⟨none, "calc.js", 100⟩, sampleDisk, _, ⟨sampleOutline, .jest, "./calc.test.js", "./calc.js"⟩,
    by decide, rfl, ?_⟩
  change Except.ok (Report.Markdown.render 100 sampleOutline).toUTF8 ≠ Except.ok "function f(a) {}\n".toUTF8
  intro heq
  have hsize : (Report.Markdown.render 100 sampleOutline).utf8ByteSize = 17 :=
    congrArg ByteArray.size (Except.ok.inj heq)
  revert hsize
  decide +kernel

end Generation

end Scaffold
