import Scaffold.Generation
import Scaffold.Proofs.Storage.Changes
import Scaffold.Proofs.Storage.Runs

namespace Scaffold

open Storage

theorem Python.language_outlineOfParse {src : Source} {path : String} {r : Option Python.Tree} {o : Outline}
    (h : outlineOfParse src path r = .ok o) : o.language = .python := by
  cases r with
  | none => cases h
  | some t =>
      rw [outlineOfParse, outlineOfTree] at h
      split at h
      · cases h
      · cases h
        rfl

theorem Python.language_outline {path text : String} {o : Outline} (h : Python.outline path text = .ok o) :
    o.language = .python := by
  rw [Python.outline] at h
  exact language_outlineOfParse h

namespace Analysis

/-- A text has an outline, and there is a way to write its tests. Both are told by the extension of its path. -/
inductive Outlines (path text : String) : Outline → Convention → Prop
  | python {e : String} {o : Outline} (extension : Path.extension? path = some e)
      (lower : Text.lowerText e = "py") (outline : Python.outline path text = .ok o) :
      Outlines path text o .unittest
  | script {e : String} (extension : Path.extension? path = some e)
      (lower : Text.lowerText e = "js" ∨ Text.lowerText e = "ts") :
      Outlines path text (JavaScript.outline path text).value .jest

variable {path text : String} {o : Outline} {d : Disk}

theorem Outlines.ofLanguage? {c : Convention} (h : Outlines path text o c) :
    Convention.ofLanguage? o.language = some c := by
  cases h with
  | python _ _ outline =>
      rw [Python.language_outline outline]
      rfl
  | script => rfl

theorem outlines_iff {c : Convention} : Outlines path text o c ↔ ∃ e, Path.extension? path = some e ∧
    (Text.lowerText e = "py" ∧ Python.outline path text = .ok o ∧ c = .unittest ∨
      (Text.lowerText e = "js" ∨ Text.lowerText e = "ts") ∧ (JavaScript.outline path text).value = o ∧ c = .jest) := by
  constructor
  · intro h
    cases h with
    | python extension lower outline => exact ⟨_, extension, .inl ⟨lower, outline, rfl⟩⟩
    | script extension lower => exact ⟨_, extension, .inr ⟨lower, rfl, rfl⟩⟩
  · rintro ⟨e, extension, ⟨lower, outline, rfl⟩ | ⟨lower, rfl, rfl⟩⟩
    · exact .python extension lower outline
    · exact .script extension lower

theorem exists_outlines_iff : (∃ c, Outlines path text o c) ↔
    ∃ events, outline? (.ofPath path) path text = some ⟨.ok o, events⟩ := by
  simp only [outlines_iff]
  rw [outline?, Language.outlinedAs?_ofPath]
  -- what the parser gives is of no account from here on, and must not be computed
  generalize Python.outline path text = python
  generalize JavaScript.outline path text = script
  cases Path.extension? path with
  | none => simp
  | some e =>
      rw [Option.bind_some]
      by_cases hpy : Text.lowerText e = "py"
      · cases python with
        | error e => simp [hpy]
        | ok o' => simp [hpy]
      · by_cases hscript : Text.lowerText e = "js" ∨ Text.lowerText e = "ts"
        · simp [hpy, hscript]
        · simp [hpy, hscript]

theorem Outlines.unique {o' : Outline} {c c' : Convention} (h : Outlines path text o c)
    (h' : Outlines path text o' c') : o = o' ∧ c = c' := by
  obtain ⟨events, hevents⟩ := exists_outlines_iff.mp ⟨c, h⟩
  obtain ⟨events', hevents'⟩ := exists_outlines_iff.mp ⟨c', h'⟩
  obtain rfl : o = o' := by
    have heq := hevents.symm.trans hevents'
    simp only [Option.some.injEq, Logged.mk.injEq, Except.ok.injEq] at heq
    exact heq.1
  exact ⟨rfl, Option.some.inj (h.ofLanguage?.symm.trans h'.ofLanguage?)⟩

/-- The outline of a file is that of the text in it, and the disk is left as it is. That a file cannot be read
comes before all else that is wrong with it. -/
theorem result_outlineFile_cases (path : String) (d : Disk) :
    (∃ text o c, d.read path = .ok text.toUTF8 ∧ Outlines path text o c ∧
        OnDisk.result (outlineFile path) d = (.ok o, d)) ∨
      ∃ e, OnDisk.result (outlineFile path) d = (.error e, d) ∧
        (∀ text o c, d.read path = .ok text.toUTF8 → ¬ Outlines path text o c) ∧
        ∀ fault, d.Unreadable path fault → e = .unreadable path fault := by
  rw [outlineFile, OnDisk.result_bind]
  rcases OnDisk.result_readText_cases d path with ⟨text, hread, hresult⟩ | ⟨fault, hfault, hresult⟩
  · have hreadable (e : Error) (fault : Fault) (h : d.Unreadable path fault) : e = .unreadable path fault :=
      absurd hread (h.read_ne text)
    have hnone (h : ∀ o events, outline? (.ofPath path) path text ≠ some ⟨.ok o, events⟩) (text' : String)
        (o : Outline) (c : Convention) (hread' : d.read path = .ok text'.toUTF8) : ¬ Outlines path text' o c := by
      intro ho
      rw [hread, Except.ok.injEq] at hread'
      obtain rfl := String.toByteArray_inj.mp hread'
      obtain ⟨events, hevents⟩ := exists_outlines_iff.mp ⟨c, ho⟩
      exact h o events hevents
    rw [hresult]
    dsimp only
    cases houtline : outline? (.ofPath path) path text with
    | none => exact .inr ⟨_, rfl, hnone (by simp [houtline]), hreadable _⟩
    | some logged =>
        obtain ⟨value, events⟩ := logged
        simp only [OnDisk.result_bind, OnDisk.result_forM_log]
        cases value with
        | error e => exact .inr ⟨_, rfl, hnone (by simp [houtline]), hreadable _⟩
        | ok o =>
            obtain ⟨c, hc⟩ := exists_outlines_iff.mpr ⟨events, houtline⟩
            exact .inl ⟨text, o, c, hread, hc, rfl⟩
  · rw [hresult]
    refine .inr ⟨_, rfl, fun text o c hread => absurd hread (hfault.read_ne text), fun fault' hfault' => ?_⟩
    rw [hfault.unique hfault']

end Analysis

namespace Generation

def Writes (config : Config) (o : Outcome) (d d' : Disk) : Prop :=
  ∃ made tested, d.makeDirs config.effectiveOutputDir = (made, .ok ()) ∧
    made.write o.testFile (o.convention.render o.outline).toUTF8 = .ok tested ∧
    tested.write o.reportFile (Report.Markdown.render config.docstringLimit o.outline).toUTF8 = .ok d'

theorem result_writeFiles_cases (config : Config) (o : Outcome) (d : Disk) :
    ∃ d', Disk.ChangesOnly [o.testFile, o.reportFile] config.effectiveOutputDir d d' ∧
      (OnDisk.result (writeFiles config o) d = (.ok o, d') ∧ Writes config o d d' ∨
        ∃ e, OnDisk.result (writeFiles config o) d = (.error e, d') ∧ (∀ d'', ¬ Writes config o d d'') ∧
          ∀ language, e ≠ .noConvention language) := by
  have hmade := Disk.ChangesOnly.of_makeDirs config.effectiveOutputDir d
  simp only [writeFiles, writeText, OnDisk.result_bind, OnDisk.result_makeDirs]
  rcases hdirs : d.makeDirs config.effectiveOutputDir with ⟨made, fault | _⟩
  · rw [hdirs] at hmade
    refine ⟨made, hmade.mono (by simp), .inr ⟨_, rfl, ?_, by simp⟩⟩
    rintro d' ⟨_, _, hwrites, -⟩
    simp [hdirs] at hwrites
  · rw [hdirs] at hmade
    simp only [OnDisk.result_bind]
    cases htest : made.write o.testFile (o.convention.render o.outline).toUTF8 with
    | error fault =>
        rw [OnDisk.result_write_error _ htest]
        refine ⟨made, hmade.mono (by simp), .inr ⟨_, rfl, ?_, by simp⟩⟩
        rintro d' ⟨_, _, hwrites, htested, -⟩
        obtain rfl := congrArg Prod.fst (hdirs.symm.trans hwrites)
        cases htest.symm.trans htested
    | ok tested =>
        rw [OnDisk.result_write_ok _ htest]
        simp only [OnDisk.result_bind]
        have htested := hmade.write htest
        cases hreport : tested.write o.reportFile
            (Report.Markdown.render config.docstringLimit o.outline).toUTF8 with
        | error fault =>
            rw [OnDisk.result_write_error _ hreport]
            refine ⟨tested, htested.mono (by simp), .inr ⟨_, rfl, ?_, by simp⟩⟩
            rintro d' ⟨_, _, hwrites, hfirst, hsecond⟩
            obtain rfl := congrArg Prod.fst (hdirs.symm.trans hwrites)
            obtain rfl := Except.ok.inj (htest.symm.trans hfirst)
            cases hreport.symm.trans hsecond
        | ok reported =>
            rw [OnDisk.result_write_ok _ hreport]
            exact ⟨reported, (htested.write hreport).mono (by simp), .inl ⟨rfl, made, tested, hdirs, htest, hreport⟩⟩

/-- A run writes the files of the outline of a source, or it stops before anything is written. For a source
that has an outline, there is always a way to write tests. -/
theorem result_generate_cases (config : Config) (path : String) (d : Disk) :
    (∃ text outline c, d.read path = .ok text.toUTF8 ∧ Analysis.Outlines path text outline c ∧
        OnDisk.result (generate config path) d =
          OnDisk.result (writeFiles config (outcomeOf config outline c)) d) ∨
      ∃ e, OnDisk.result (generate config path) d = (.error (.analysis e), d) ∧
        (∀ text outline c, d.read path = .ok text.toUTF8 → ¬ Analysis.Outlines path text outline c) ∧
        ∀ fault, d.Unreadable path fault → e = .unreadable path fault := by
  rw [generate, OnDisk.result_bind]
  rcases Analysis.result_outlineFile_cases path d with ⟨text, outline, c, hread, hc, hresult⟩ | ⟨e, hresult, he⟩
  · refine .inl ⟨text, outline, c, hread, hc, ?_⟩
    rw [hresult]
    simp only [hc.ofLanguage?]
  · rw [hresult]
    exact .inr ⟨e, rfl, he⟩

end Generation

end Scaffold
