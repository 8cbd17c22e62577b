import Scaffold.Config.Load
import Scaffold.Proofs.Storage.Runs

namespace Scaffold.Config

open Storage

variable {user named : Option String} {d : Disk} {text : String} {config : Config}

/-- The settings in a text: the default ones if it is blank, and else those that it gives, if they are usable. -/
def IsRead (text : String) (config : Config) : Prop :=
  if Text.isBlankText text then config = default
  else decodeDocument (Yaml.document text) = .ok config ∧ config.invalid? = none

theorem parse_eq_ok_iff : parse text = .ok config ↔ IsRead text config := by
  rw [parse, IsRead]
  split
  · exact ⟨fun h => (Except.ok.inj h).symm, fun h => congrArg _ h.symm⟩
  · cases hdecoded : decodeDocument (Yaml.document text) with
    | error cause => simp
    | ok given =>
        rw [Except.ok.injEq]
        constructor
        · intro h
          cases hinvalid : given.invalid? with
          | none =>
              obtain rfl : given = config := by simpa [hinvalid] using h
              exact ⟨rfl, hinvalid⟩
          | some cause => simp [hinvalid] at h
        · rintro ⟨rfl, hinvalid⟩
          simp [hinvalid]

def file? (user named : Option String) (d : Disk) : Option String :=
  named.or ((fileNames ++ user.toList).find? fun path => d.isPresent path)

def Loads (user named : Option String) (d : Disk) (config : Config) : Prop :=
  match file? user named d with
  | some path => ∃ text, d.read path = .ok text.toUTF8 ∧ IsRead text config
  | none => config = default

theorem result_firstPresent? (paths : List String) (d : Disk) :
    OnDisk.result (firstPresent? paths) d = (paths.find? fun path => d.isPresent path, d) := by
  induction paths with
  | nil => rfl
  | cons path paths ih =>
      rw [firstPresent?, OnDisk.result_bind, OnDisk.result_isPresent]
      cases h : d.isPresent path with
      | true => simp [h]
      | false => simp [h, ih]

theorem result_loadFile (path : String) (d : Disk) :
    ∃ r, OnDisk.result (loadFile path) d = (r, d) ∧
      ∀ config, r = .ok config ↔ ∃ text, d.read path = .ok text.toUTF8 ∧ IsRead text config := by
  simp only [loadFile, ofFile, OnDisk.result_bind, ← parse_eq_ok_iff]
  rcases OnDisk.result_readText_cases d path with ⟨text, hread, hresult⟩ | ⟨fault, hfault, hresult⟩
  · have hiff (config : Config) :
        (∃ text : String, d.read path = .ok text.toUTF8 ∧ parse text = .ok config) ↔ parse text = .ok config := by
      refine ⟨?_, fun h => ⟨text, hread, h⟩⟩
      rintro ⟨text', hread', h⟩
      rw [hread, Except.ok.injEq] at hread'
      rwa [String.toByteArray_inj.mp hread']
    rw [hresult]
    simp only [hiff]
    cases hparse : parse text with
    | error e => exact ⟨_, rfl, by simp⟩
    | ok given => exact ⟨_, rfl, by simp⟩
  · rw [hresult]
    refine ⟨_, rfl, fun config => ⟨fun h => ?_, ?_⟩⟩
    · cases h
    · rintro ⟨text, hread, -⟩
      exact absurd hread (hfault.read_ne text)

/-- Loading settings leaves the disk as it is. -/
theorem result_load (user named : Option String) (d : Disk) :
    ∃ r, OnDisk.result (load user named) d = (r, d) ∧ ∀ config, r = .ok config ↔ Loads user named d config := by
  cases named with
  | some path => exact result_loadFile path d
  | none =>
      have hfile : file? user none d = (fileNames ++ user.toList).find? fun path => d.isPresent path := rfl
      simp only [Loads, hfile, load, discover?, OnDisk.result_bind, result_firstPresent?]
      cases (fileNames ++ user.toList).find? fun path => d.isPresent path with
      | some path => exact result_loadFile path d
      | none => exact ⟨_, rfl, fun config => ⟨fun h => (Except.ok.inj h).symm, fun h => congrArg _ h.symm⟩⟩

end Scaffold.Config
