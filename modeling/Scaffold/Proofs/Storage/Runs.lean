import Scaffold.Storage.Disk

namespace Scaffold.Storage

inductive Disk.Unreadable (d : Disk) (path : String) : Fault → Prop
  | fault {fault : Fault} (h : d.read path = .error fault) : Unreadable d path fault
  | notText {bytes : ByteArray} (h : d.read path = .ok bytes) (hbytes : ∀ text : String, text.toUTF8 ≠ bytes) :
      Unreadable d path .notText

theorem Disk.Unreadable.read_ne {d : Disk} {path : String} {fault : Fault} (h : d.Unreadable path fault)
    (text : String) : d.read path ≠ .ok text.toUTF8 := by
  intro hread
  cases h with
  | fault h => simp [h] at hread
  | notText h hbytes =>
      rw [h] at hread
      exact hbytes text (Except.ok.inj hread).symm

theorem Disk.Unreadable.unique {d : Disk} {path : String} {f g : Fault} (h : d.Unreadable path f)
    (h' : d.Unreadable path g) : f = g := by
  cases h with
  | fault h =>
      cases h' with
      | fault h' => simpa [h] using h'
      | notText h' _ => simp [h] at h'
  | notText h _ =>
      cases h' with
      | fault h' => simp [h] at h'
      | notText _ _ => rfl

namespace OnDisk

variable {α β : Type} (d : Disk)

def result (x : OnDisk α) (d : Disk) : α × Disk := (x d).value

@[simp] theorem result_pure (a : α) : (pure a : OnDisk α).result d = (a, d) := rfl

@[simp] theorem result_bind (x : OnDisk α) (f : α → OnDisk β) :
    (x >>= f).result d = (f (x.result d).1).result (x.result d).2 := rfl

@[simp] theorem result_read (path : String) : (Storage.read path : OnDisk _).result d = (d.read path, d) := rfl

@[simp] theorem result_isPresent (path : String) :
    (Storage.isPresent path : OnDisk _).result d = (d.isPresent path, d) := rfl

@[simp] theorem result_isDirectory (path : String) :
    (Storage.isDirectory path : OnDisk _).result d = (d.isDirectory path, d) := rfl

@[simp] theorem result_realPath? (path : String) :
    (Storage.realPath? path : OnDisk _).result d = (d.realPath? path, d) := rfl

@[simp] theorem result_filesBelow (path : String) :
    (Storage.filesBelow path : OnDisk _).result d = (d.filesBelow path, d) := rfl

@[simp] theorem result_log (event : Log.Event) : (Storage.log event : OnDisk _).result d = ((), d) := rfl

@[simp] theorem result_makeDirs (path : String) :
    (Storage.makeDirs path : OnDisk _).result d = ((d.makeDirs path).2, (d.makeDirs path).1) := rfl

theorem result_write_ok {path : String} {content : ByteArray} {d' : Disk} (h : d.write path content = .ok d') :
    (Storage.write path content : OnDisk _).result d = (.ok (), d') := by
  change (update (Disk.write path content) d).value = _
  rw [update, h]
  rfl

theorem result_write_error {path : String} {content : ByteArray} {fault : Fault}
    (h : d.write path content = .error fault) :
    (Storage.write path content : OnDisk _).result d = (.error fault, d) := by
  change (update (Disk.write path content) d).value = _
  rw [update, h]
  rfl

theorem result_write_ok_iff {path : String} {content : ByteArray} {d' : Disk} :
    (Storage.write path content : OnDisk _).result d = (.ok (), d') ↔ d.write path content = .ok d' := by
  cases hwrite : d.write path content with
  | ok e => simp [result_write_ok d hwrite]
  | error fault => simp [result_write_error d hwrite]

theorem result_forM_log (events : List Log.Event) :
    (events.forM Storage.log : OnDisk Unit).result d = ((), d) := by
  induction events with
  | nil => rfl
  | cons event events ih => exact ih

/-- Reading a text leaves the disk as it is, and gives the text of which the file has the bytes. -/
theorem result_readText_cases (path : String) :
    (∃ text : String, d.read path = .ok text.toUTF8 ∧ (readText path : OnDisk _).result d = (.ok text, d)) ∨
      ∃ fault, d.Unreadable path fault ∧ (readText path : OnDisk _).result d = (.error fault, d) := by
  rw [readText, result_bind, result_read]
  cases hread : d.read path with
  | error fault => exact .inr ⟨fault, .fault hread, rfl⟩
  | ok bytes =>
      by_cases hvalid : bytes.IsValidUTF8
      · refine .inl ⟨String.fromUTF8 bytes hvalid, rfl, ?_⟩
        simp only [String.fromUTF8?, dif_pos hvalid, result_pure]
      · refine .inr ⟨.notText, .notText hread ?_, ?_⟩
        · rintro text rfl
          exact hvalid text.isValidUTF8
        · simp only [String.fromUTF8?, dif_neg hvalid, result_pure]

end OnDisk

end Scaffold.Storage
