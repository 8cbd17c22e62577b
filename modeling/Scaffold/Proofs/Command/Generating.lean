import Scaffold.Command.Run
import Scaffold.Proofs.Config.Loading
import Scaffold.Proofs.Generation.Attempts

namespace Scaffold

open Storage

theorem Config.Loads.unique {user named : Option String} {d : Disk} {config config' : Config}
    (h : Loads user named d config) (h' : Loads user named d config') : config = config' := by
  obtain ⟨r, -, hr⟩ := Config.result_load user named d
  exact Except.ok.inj (((hr config).mpr h).symm.trans ((hr config').mpr h'))

namespace Command

variable {env : Surroundings} {args : GenerateArgs} {d : Disk} {config : Config} {o : Generation.Outcome}

/-- All that comes before the first file goes well: the format is known, the settings are loaded, and the source
is read and has an outline. -/
structure Prepared (env : Surroundings) (args : GenerateArgs) (d : Disk) (config : Config)
    (o : Generation.Outcome) : Prop where
  format : args.format = "pretty" ∨ args.format = "json"
  settings : ∃ loaded, Config.Loads env.userFile args.config d loaded ∧
    config = { loaded with outputDir := args.outputDir.or loaded.outputDir }
  source : ∃ text outline convention, d.read args.path = .ok text.toUTF8 ∧
    Analysis.Outlines args.path text outline convention ∧ o = Generation.outcomeOf config outline convention

theorem Prepared.unique {config' : Config} {o' : Generation.Outcome} (h : Prepared env args d config o)
    (h' : Prepared env args d config' o') : config = config' ∧ o = o' := by
  obtain ⟨loaded, hloaded, rfl⟩ := h.settings
  obtain ⟨loaded', hloaded', rfl⟩ := h'.settings
  obtain rfl := hloaded.unique hloaded'
  obtain ⟨text, outline, c, hread, houtline, rfl⟩ := h.source
  obtain ⟨text', outline', c', hread', houtline', rfl⟩ := h'.source
  obtain rfl := String.toByteArray_inj.mp (Except.ok.inj (hread.symm.trans hread'))
  obtain ⟨rfl, rfl⟩ := houtline.unique houtline'
  exact ⟨rfl, rfl⟩

theorem contains_formats_iff {format : String} :
    formats.contains format = true ↔ format = "pretty" ∨ format = "json" := by
  simp [formats]

/-- A run is prepared and then tries to write the files, or it fails and leaves the disk as it is. -/
theorem result_runGenerate_cases (env : Surroundings) (args : GenerateArgs) (d : Disk) :
    (∃ message, OnDisk.result (runGenerate env args) d = (.failed message, d) ∧
        (∀ config o, ¬ Prepared env args d config o) ∧
        ∀ loaded fault, (args.format = "pretty" ∨ args.format = "json") →
          Config.Loads env.userFile args.config d loaded → d.Unreadable args.path fault →
            message = (Generation.Error.analysis (.unreadable args.path fault)).message) ∨
      ∃ config o d', Prepared env args d config o ∧
        Disk.ChangesOnly [o.testFile, o.reportFile] config.effectiveOutputDir d d' ∧
        (OnDisk.result (runGenerate env args) d = (.success (describe env args.format o), d') ∧
            Generation.Writes config o d d' ∨
          ∃ message, OnDisk.result (runGenerate env args) d = (.failed message, d') ∧
            ∀ d'', ¬ Generation.Writes config o d d'') := by
  rw [runGenerate]
  by_cases hformat : formats.contains args.format = true
  · simp only [hformat, Bool.not_true, Bool.false_eq_true, if_false, OnDisk.result_bind]
    obtain ⟨r, hload, hloads⟩ := Config.result_load env.userFile args.config d
    rw [hload]
    cases r with
    | error e =>
        have hnone : ∀ loaded, ¬ Config.Loads env.userFile args.config d loaded := by
          intro loaded h
          cases (hloads loaded).mpr h
        refine .inl ⟨_, rfl, ?_, fun loaded _ _ h => absurd h (hnone loaded)⟩
        intro config o h
        obtain ⟨loaded, hloaded, -⟩ := h.settings
        exact hnone loaded hloaded
    | ok loaded =>
        have hloaded := (hloads loaded).mp rfl
        simp only [OnDisk.result_bind]
        rcases Generation.result_generate_cases { loaded with outputDir := args.outputDir.or loaded.outputDir }
          args.path d with ⟨text, outline, c, hread, houtline, hresult⟩ | ⟨e, hresult, hnone, hfault⟩
        · rw [hresult]
          obtain ⟨d', hchanges, hfiles⟩ := Generation.result_writeFiles_cases
            { loaded with outputDir := args.outputDir.or loaded.outputDir } (Generation.outcomeOf _ outline c) d
          refine .inr ⟨_, _, d', ⟨contains_formats_iff.mp hformat, ⟨loaded, hloaded, rfl⟩,
            ⟨text, outline, c, hread, houtline, rfl⟩⟩, hchanges, ?_⟩
          rcases hfiles with ⟨hok, hwrites⟩ | ⟨e, herror, hwrites, -⟩
          · rw [hok]
            exact .inl ⟨rfl, hwrites⟩
          · rw [herror]
            exact .inr ⟨_, rfl, hwrites⟩
        · rw [hresult]
          refine .inl ⟨_, rfl, ?_, fun _ fault _ _ h => by rw [hfault fault h]⟩
          intro config o h
          obtain ⟨text, outline, c, hread, houtline, -⟩ := h.source
          exact hnone text outline c hread houtline
  · simp only [hformat, Bool.not_false, if_true]
    refine .inl ⟨_, rfl, fun config o h => hformat (contains_formats_iff.mpr h.format), ?_⟩
    exact fun _ _ h => absurd (contains_formats_iff.mpr h) hformat

/-- The command ends with code 0 if it is prepared and the directory and both files can be written, and else
with code 2 and nothing on its output. If it is not prepared, the disk is as it was, and if it is, no more than
the two files and new directories on the way to theirs can have changed. A source that cannot be read is told
as such, whatever its extension, and there is always a way to write tests. -/
theorem runGenerate_outcome (env : Surroundings) (args : GenerateArgs) (d : Disk) :
    ∃ r d', OnDisk.result (runGenerate env args) d = (r, d') ∧
      (r.exitCode = 0 ∨ r.exitCode = 2 ∧ r.stdout = "") ∧
      (r.exitCode = 0 ↔ ∃ config o d'', Prepared env args d config o ∧ Generation.Writes config o d d'') ∧
      ((∀ config o, ¬ Prepared env args d config o) → d' = d) ∧
      (∀ config o, Prepared env args d config o →
        Disk.ChangesOnly [o.testFile, o.reportFile] config.effectiveOutputDir d d') ∧
      (∀ loaded fault, (args.format = "pretty" ∨ args.format = "json") →
        Config.Loads env.userFile args.config d loaded → d.Unreadable args.path fault →
          r = .failed (Generation.Error.analysis (.unreadable args.path fault)).message) ∧
      ∀ config language, (OnDisk.result (Generation.generate config args.path) d).1 ≠
        .error (.noConvention language) := by
  have hconvention (config : Config) (language : Language) :
      (OnDisk.result (Generation.generate config args.path) d).1 ≠ .error (.noConvention language) := by
    rcases Generation.result_generate_cases config args.path d with ⟨_, outline, c, -, -, hresult⟩ | ⟨e, hresult, -⟩
    · obtain ⟨d', -, ⟨hok, -⟩ | ⟨e, herror, -, he⟩⟩ :=
        Generation.result_writeFiles_cases config (Generation.outcomeOf config outline c) d
      · simp [hresult, hok]
      · simpa [hresult, herror] using he language
    · simp [hresult]
  rcases result_runGenerate_cases env args d with
    ⟨message, hresult, hnone, hfault⟩ | ⟨config, o, d', hprepared, hchanges, hfiles⟩
  · refine ⟨_, d, hresult, .inr ⟨rfl, rfl⟩, ?_, fun _ => rfl, fun config o h => absurd h (hnone config o), ?_,
      hconvention⟩
    · constructor
      · intro h
        cases h
      · rintro ⟨config, o, -, h, -⟩
        exact absurd h (hnone config o)
    · intro loaded fault hformat hloads hunreadable
      rw [hfault loaded fault hformat hloads hunreadable]
  · have hchanges' (config' : Config) (o' : Generation.Outcome) (h : Prepared env args d config' o') :
        Disk.ChangesOnly [o'.testFile, o'.reportFile] config'.effectiveOutputDir d d' := by
      obtain ⟨rfl, rfl⟩ := hprepared.unique h
      exact hchanges
    have hreadable (r : Outcome) (fault : Fault) (h : d.Unreadable args.path fault) :
        r = .failed (Generation.Error.analysis (.unreadable args.path fault)).message := by
      obtain ⟨text, _, _, hread, -⟩ := hprepared.source
      exact absurd hread (h.read_ne text)
    rcases hfiles with ⟨hresult, hwrites⟩ | ⟨message, hresult, hwrites⟩
    · refine ⟨_, d', hresult, .inl rfl, ?_, fun h => absurd hprepared (h config o), hchanges',
        fun _ fault _ _ h => hreadable _ fault h, hconvention⟩
      exact ⟨fun _ => ⟨config, o, d', hprepared, hwrites⟩, fun _ => rfl⟩
    · refine ⟨_, d', hresult, .inr ⟨rfl, rfl⟩, ?_, fun h => absurd hprepared (h config o), hchanges',
        fun _ fault _ _ h => hreadable _ fault h, hconvention⟩
      constructor
      · intro h
        cases h
      · rintro ⟨config', o', d'', h, hwrites'⟩
        obtain ⟨rfl, rfl⟩ := hprepared.unique h
        exact absurd hwrites' (hwrites d'')

example : OnDisk.result (runGenerate ⟨none, false⟩ ⟨"calc.rb", none, none, "json"⟩) ⟨[], []⟩ =
    (.failed (Generation.Error.analysis (.unreadable "calc.rb" .notFound)).message, ⟨[], []⟩) := by
  rfl

end Command

end Scaffold
