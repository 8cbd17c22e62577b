import Scaffold.Proofs.Config.Loading
import Scaffold.Proofs.Json.RoundTrip
import Scaffold.Proofs.Yaml.Mappings

namespace Scaffold

namespace Yaml

theorem digit?_of_isDigit {c : Char} (h : c.isDigit) : digit? 10 c = some (c.toNat - 48) := by
  have hvalue : c.toNat ≤ 57 := by
    simp only [Char.isDigit, Bool.and_eq_true, decide_eq_true_eq, UInt32.le_iff_toNat_le] at h
    exact h.2
  have hless : decide (c.toNat - 48 < 10) = true := by
    rw [decide_eq_true_eq]
    omega
  rw [digit?, hexValue?, if_pos h, Option.filter_some, if_pos hless]

theorem digits?_eq {cs : List Char} (h : ∀ c ∈ cs, c.isDigit) (n : Nat) :
    digits? 10 n cs = some (Nat.ofDigitChars 10 cs n) := by
  induction cs generalizing n with
  | nil => rfl
  | cons c cs ih =>
      have hzero : '0'.toNat = 48 := rfl
      rw [digits?, digit?_of_isDigit (h c (.head _)), Option.bind_some, ih fun d hd => h d (.tail _ hd),
        Nat.ofDigitChars_cons, Nat.mul_comm, hzero]

theorem based?_of_digits {cs : List Char} (h : ∀ c ∈ cs, c.isDigit) : based? cs = none := by
  unfold based?
  split
  · exact absurd (h 'x' (by simp)) (by decide)
  · exact absurd (h 'o' (by simp)) (by decide)
  · exact absurd (h 'b' (by simp)) (by decide)
  · rfl

theorem hasLeadingZero_toDigits (n : Nat) : hasLeadingZero (Nat.toDigits 10 n) = false := by
  cases n with
  | zero => rfl
  | succ n => simp [hasLeadingZero, Json.head?_toDigits_ne_zero (Nat.succ_pos n)]

theorem unsigned?_toString {n bound : Nat} (h : n < bound) : unsigned? bound (toString n) = some n := by
  have hdigits : ∀ c ∈ Nat.toDigits 10 n, c.isDigit := fun c hc => Nat.isDigit_of_mem_toDigits (by decide) (by decide) hc
  have hplus : (Nat.toDigits 10 n).head? ≠ some '+' := by
    obtain ⟨c, cs, hcs, hc⟩ := Json.exists_toDigits n
    rw [hcs]
    intro hhead
    obtain rfl : c = '+' := Option.some.inj hhead
    exact absurd hc (by decide)
  have hmagnitude : magnitude? (Nat.toDigits 10 n) = some n := by
    rw [magnitude?, based?_of_digits hdigits, hasLeadingZero_toDigits]
    simp [natural?, digits?_eq hdigits]
  rw [unsigned?, Nat.toString_eq_ofList_toDigits, String.toList_ofList]
  simp [hplus, hmagnitude, h]

end Yaml

namespace Path

def countedParts (path : String) : List String :=
  match Text.split '/' path with
  | [] => []
  | first :: rest => [first].filter (· ≠ "") ++ rest.filter fun part => part ≠ "" ∧ part ≠ "."

theorem filterMap_ofPart (parts : List String) : parts.filterMap ofPart =
    (parts.filter fun part => part ≠ "" ∧ part ≠ ".").map fun part => if part = ".." then .parent else .name part := by
  induction parts with
  | nil => rfl
  | cons part parts ih =>
      by_cases hempty : part = ""
      · simp [hempty, ofPart, ih]
      · by_cases hdot : part = "."
        · simp [hdot, ofPart, ih]
        · by_cases hparent : part = ".." <;> simp [hempty, hdot, hparent, ofPart, ih]

theorem isSome_fileName?_iff (path : String) : (fileName? path).isSome ↔
    ∃ name, (countedParts path).getLast? = some name ∧ name ≠ "." ∧ name ≠ ".." := by
  obtain ⟨first, rest, hparts⟩ : ∃ first rest, Text.split '/' path = first :: rest := by
    obtain ⟨first, rest, hchars⟩ := List.exists_cons_of_ne_nil (Text.splitChars_ne_nil '/' path.toList)
    exact ⟨String.ofList first, rest.map String.ofList, by rw [Text.split, hchars, List.map_cons]⟩
  have hcounted : countedParts path = (if first = "." then ["."] else []) ++
      (Text.split '/' path).filter fun part => part ≠ "" ∧ part ≠ "." := by
    rw [countedParts, hparts]
    by_cases hempty : first = ""
    · simp [hempty]
    · by_cases hdot : first = "." <;> simp [hempty, hdot]
  rw [fileName?, components, filterMap_ofPart, hcounted]
  generalize hnames : ((Text.split '/' path).filter fun part => part ≠ "" ∧ part ≠ ".") = names
  rcases List.eq_nil_or_concat names with rfl | ⟨before, name, rfl⟩
  · rw [List.map_nil, List.append_nil, List.append_nil]
    by_cases hdot : first = "."
    · by_cases habsolute : isAbsolute path <;> simp [hdot, hparts, habsolute]
    · by_cases habsolute : isAbsolute path <;> simp [hdot, hparts, habsolute]
  · have hname : name ≠ "" ∧ name ≠ "." := by
      have hmem : name ∈ (Text.split '/' path).filter fun part => part ≠ "" ∧ part ≠ "." := hnames ▸ by simp
      simpa using (List.mem_filter.mp hmem).2
    rw [List.concat_eq_append, List.map_append, List.map_singleton, ← List.append_assoc, ← List.append_assoc,
      List.getLast?_concat, List.getLast?_concat]
    by_cases hparent : name = ".." <;> simp [hparent, hname]

end Path

namespace Config

open Yaml

inductive Setting where
  | outputDir (path : String)
  | reportFile (name : String)
  | docstringLimit (limit : Nat)
  deriving DecidableEq, Repr

namespace Setting

def field : Setting → Field
  | outputDir _ => .outputDir
  | reportFile _ => .reportFile
  | docstringLimit _ => .docstringLimit

def value : Setting → Inline
  | outputDir path => .quoted path
  | reportFile name => .quoted name
  | docstringLimit limit => .natural limit

def entry (s : Setting) : Entry := ⟨s.field.name, s.value⟩

def Fits : Setting → Prop
  | outputDir path => ∀ x ∈ path.toList, isPrintable x
  | reportFile name => ∀ x ∈ name.toList, isPrintable x
  | docstringLimit limit => limit < limitBound

def apply (c : Config) : Setting → Config
  | outputDir path => { c with outputDir := some path }
  | reportFile name => { c with reportFile := name }
  | docstringLimit limit => { c with docstringLimit := limit }

def give (g : Given) : Setting → Given
  | outputDir path => { g with outputDir := some (some path) }
  | reportFile name => { g with reportFile := some name }
  | docstringLimit limit => { g with docstringLimit := some limit }

end Setting

def overridden (ss : List Setting) : Config := ss.foldl Setting.apply default

def written (ss : List Setting) (ending : String) : String := mappingText (ss.map Setting.entry) ending

variable {s : Setting} {ss : List Setting} {ending : String}

theorem ofName?_name (f : Field) : Field.ofName? f.name = some f := by cases f <;> decide

theorem regular_entry (h : s.Fits) : s.entry.Regular where
  key_ne := by cases s <;> simp [Setting.entry, Setting.field, Field.name]
  key_word := List.all_eq_true.mp (by cases s <;> simp only [Setting.entry, Setting.field] <;> decide)
  key_length := by cases s <;> simp only [Setting.entry, Setting.field] <;> decide
  value := by cases s <;> simp_all [Setting.entry, Setting.value, Inline.IsPrintable, Setting.Fits]

theorem decodeField_value (h : s.Fits) (g : Given) (path : String) (since m : Mark) :
    decodeField g s.field path since (s.value.event, m) = .ok (s.give g) := by
  cases s with
  | outputDir name => rfl
  | reportFile name => rfl
  | docstringLimit limit =>
      have hlimit : unsigned? limitBound (toString limit) = some limit := unsigned?_toString h
      simp [decodeField, Setting.field, Setting.value, Inline.event, target, decodeLimit, hlimit, Setting.give,
        Except.map, -Nat.toString_eq_repr]

theorem has_give {g : Given} {f : Field} (h : g.has f = false) (hne : s.field ≠ f) : (s.give g).has f = false := by
  cases s <;> cases f <;> first | exact absurd rfl hne | exact h

theorem complete_give (g : Given) : (s.give g).complete = s.apply g.complete := by
  cases s <;> rfl

theorem complete_foldl (ss : List Setting) (g : Given) :
    (ss.foldl Setting.give g).complete = ss.foldl Setting.apply g.complete := by
  induction ss generalizing g with
  | nil => rfl
  | cons s ss ih => rw [List.foldl_cons, ih, complete_give, List.foldl_cons]

theorem decodeEntries_settings {missing : DecodeError} {since : Mark} {fuel : Nat} {g : Given} {events : List Located}
    (hfits : ∀ s ∈ ss, s.Fits) (hdistinct : (ss.map Setting.field).Nodup) (hnew : ∀ s ∈ ss, g.has s.field = false)
    (hfuel : ss.length < fuel)
    (hevents : events.map Prod.fst = (ss.map Setting.entry).flatMap Entry.events ++ [.mappingEnd]) :
    decodeEntries missing since fuel g events = .ok (ss.foldl Setting.give g) := by
  induction ss generalizing fuel g events with
  | nil =>
      obtain ⟨fuel, rfl⟩ := Nat.exists_eq_succ_of_ne_zero (Nat.ne_of_gt hfuel)
      obtain ⟨e, events, rfl, he, -⟩ := List.map_eq_cons_iff.mp hevents
      rw [decodeEntries, if_pos he]
      rfl
  | cons s ss ih =>
      obtain ⟨fuel, rfl⟩ := Nat.exists_eq_succ_of_ne_zero (Nat.ne_of_gt (Nat.zero_lt_of_lt hfuel))
      obtain ⟨⟨key, km⟩, events, rfl, hkey, hafter⟩ := List.map_eq_cons_iff.mp hevents
      obtain ⟨⟨value, vm⟩, events, rfl, hvalue, hlater⟩ := List.map_eq_cons_iff.mp hafter
      obtain rfl : key = .scalar s.field.name .plain none := hkey
      obtain rfl : value = s.value.event := hvalue
      rw [List.map_cons, List.nodup_cons] at hdistinct
      have hnew' : ∀ s' ∈ ss, (s.give g).has s'.field = false := by
        intro s' hs'
        refine has_give (hnew s' (.tail _ hs')) fun heq => hdistinct.1 ?_
        rw [heq]
        exact List.mem_map_of_mem hs'
      have hrest := ih (fun s' hs' => hfits s' (.tail _ hs')) hdistinct.2 hnew' (by simpa using hfuel) hlater
      rw [decodeEntries, if_neg (by simp)]
      simp only [decodeKey, bind, Except.bind, ofName?_name, hnew s (.head _), Bool.false_eq_true, if_false,
        decodeField_value (hfits s (.head _)), hrest]
      rfl

structure Usable (c : Config) : Prop where
  reportFile : ¬ Text.isBlankText c.reportFile
  name : ∃ name, (Path.countedParts c.reportFile).getLast? = some name ∧ name ≠ "." ∧ name ≠ ".."
  docstringLimit : c.docstringLimit ≠ 0

theorem invalid?_eq_none_iff (c : Config) : c.invalid? = none ↔ Usable c := by
  have hname := Path.isSome_fileName?_iff c.reportFile
  constructor
  · intro h
    rw [invalid?] at h
    split at h
    · cases h
    · next hblank =>
      split at h
      · cases h
      · next hfile =>
        split at h
        · cases h
        · next hlimit => exact ⟨hblank, hname.mp (Option.isSome_iff_ne_none.mpr (by simpa using hfile)), hlimit⟩
  · rintro ⟨hblank, hfile, hlimit⟩
    have hsome := hname.mpr hfile
    rw [invalid?, if_neg hblank, if_neg (by simp [Option.isNone_eq_false_iff.mpr hsome]), if_neg hlimit]

theorem isBlankText_written (hne : ss ≠ []) (ending : String) : Text.isBlankText (written ss ending) = false := by
  obtain ⟨s, ss, rfl⟩ := List.exists_cons_of_ne_nil hne
  have hname : '_' ∈ s.entry.line.toList := by
    have hkey : '_' ∈ s.field.name.toList := by cases s <;> simp only [Setting.field] <;> decide
    rw [Entry.line, String.toList_append, String.toList_append]
    exact List.mem_append_left _ (List.mem_append_left _ hkey)
  have hmem : '_' ∈ (written (s :: ss) ending).toList := by
    rw [written, mappingText, String.toList_append, List.map_cons, List.map_cons]
    refine List.mem_append_left _ ?_
    by_cases hrest : (ss.map Setting.entry).map Entry.line = []
    · rw [hrest]
      exact hname
    · rw [Text.joinWith_cons _ _ hrest, String.toList_append, String.toList_append]
      exact List.mem_append_left _ (List.mem_append_left _ hname)
  rw [Text.isBlankText, List.all_eq_false]
  exact ⟨'_', hmem, by decide⟩

theorem length_flatMap_events (es : List Entry) : (es.flatMap Entry.events).length = 2 * es.length := by
  induction es with
  | nil => rfl
  | cons e es ih =>
      rw [List.flatMap_cons, List.length_append, ih, List.length_cons, Entry.events]
      simp only [List.length_cons, List.length_nil]
      omega

theorem decodeDocument_written (hne : ss ≠ []) (hfits : ∀ s ∈ ss, s.Fits) (hdistinct : (ss.map Setting.field).Nodup)
    (hending : ending = "" ∨ ending = "\n") :
    decodeDocument (document (written ss ending)) = .ok (overridden ss) := by
  have hregular : ∀ e ∈ ss.map Setting.entry, e.Regular := by
    intro e he
    obtain ⟨s, hs, rfl⟩ := List.mem_map.mp he
    exact regular_entry (hfits s hs)
  obtain ⟨events, hdocument, hevents⟩ := document_mappingText (by simpa using hne) hregular hending
  obtain ⟨⟨start, since⟩, events, rfl, hstart, hafter⟩ := List.map_eq_cons_iff.mp hevents
  obtain rfl : start = .mappingStart := hstart
  have hfuel : ss.length < ((Event.mappingStart, since) :: events).length := by
    have htotal := congrArg List.length hafter
    simp only [List.length_map, List.length_append, length_flatMap_events] at htotal
    rw [List.length_cons, htotal]
    omega
  have hentries (missing : DecodeError) :
      decodeEntries missing since ((Event.mappingStart, since) :: events).length .nothing events =
        .ok (ss.foldl Setting.give .nothing) :=
    decodeEntries_settings hfits hdistinct (fun s _ => by cases s <;> rfl) hfuel hafter
  have hcomplete : (ss.foldl Setting.give .nothing).complete = overridden ss := complete_foldl ss .nothing
  rw [written, hdocument, decodeDocument]
  simp only [hentries, bind, Except.bind, hcomplete]
  rfl

theorem parse_eq_written (hfits : ∀ s ∈ ss, s.Fits) (hdistinct : (ss.map Setting.field).Nodup)
    (hending : ending = "" ∨ ending = "\n") :
    parse (written ss ending) =
      match (overridden ss).invalid? with
      | some cause => .error (.invalid cause)
      | none => .ok (overridden ss) := by
  by_cases hne : ss = []
  · subst hne
    obtain rfl | rfl := hending <;> rfl
  · rw [parse, isBlankText_written hne, decodeDocument_written hne hfits hdistinct hending]
    rfl

/-- Settings in any order are read back, with the default ones of those that are left out, if they are usable, and
are refused if they are not. Whatever is read from any text is usable. -/
theorem parse_written (ss : List Setting) (hfits : ∀ s ∈ ss, s.Fits) (hdistinct : (ss.map Setting.field).Nodup)
    (ending : String) (hending : ending = "" ∨ ending = "\n") :
    (Usable (overridden ss) → parse (written ss ending) = .ok (overridden ss)) ∧
    (¬ Usable (overridden ss) → ∃ cause, (overridden ss).invalid? = some cause ∧
      parse (written ss ending) = .error (.invalid cause)) ∧
    ∀ text config, parse text = .ok config → config.invalid? = none := by
  have hparse := parse_eq_written hfits hdistinct hending
  refine ⟨fun h => ?_, fun h => ?_, fun text config h => ?_⟩
  · rw [hparse, (invalid?_eq_none_iff _).mpr h]
  · obtain ⟨cause, hcause⟩ := Option.ne_none_iff_exists'.mp fun hnone => h ((invalid?_eq_none_iff _).mp hnone)
    exact ⟨cause, hcause, by rw [hparse, hcause]⟩
  · have hread := parse_eq_ok_iff.mp h
    rw [IsRead] at hread
    split at hread
    · subst hread
      rfl
    · exact hread.2

def threeSettings (name : String) : List Setting :=
  [.docstringLimit 18446744073709551615, .reportFile name, .outputDir "a: \\ # \x7bb\x7d"]

theorem parse_written_threeSettings :
    written (threeSettings "./a \"b\".md/.") "\n" =
        "docstring_limit: 18446744073709551615\nreport_file: \"./a \\\"b\\\".md/.\"\noutput_dir: \"a: \\\\ # \x7bb\x7d\"\n" ∧
      (∀ s ∈ threeSettings "./a \"b\".md/.", s.Fits) ∧ ((threeSettings "./a \"b\".md/.").map Setting.field).Nodup ∧
      parse (written (threeSettings "./a \"b\".md/.") "\n") =
        .ok ⟨some "a: \\ # \x7bb\x7d", "./a \"b\".md/.", 18446744073709551615⟩ ∧
      ∃ cause, parse (written (threeSettings "./.") "") = .error cause := by
  have hfits (name : String) (hname : ∀ x ∈ name.toList, isPrintable x) : ∀ s ∈ threeSettings name, s.Fits := by
    have hpath : ∀ x ∈ "a: \\ # \x7bb\x7d".toList, isPrintable x := List.all_eq_true.mp (by decide)
    simp only [threeSettings, List.forall_mem_cons]
    exact ⟨by rw [Setting.Fits]; decide, hname, hpath, by simp⟩
  have hdistinct (name : String) : ((threeSettings name).map Setting.field).Nodup := by
    simp only [threeSettings, List.map_cons, List.map_nil, Setting.field]
    decide
  have husable : Usable (overridden (threeSettings "./a \"b\".md/.")) :=
    ⟨by decide, ⟨"a \"b\".md", by decide, by decide, by decide⟩, by decide⟩
  have hunusable : ¬ Usable (overridden (threeSettings "./.")) := by
    rintro ⟨-, ⟨name, hlast, hdot, -⟩, -⟩
    have hlead : (Path.countedParts (overridden (threeSettings "./.")).reportFile).getLast? = some "." := by decide
    rw [hlead] at hlast
    exact hdot (Option.some.inj hlast).symm
  have hread := parse_written _ (hfits _ (List.all_eq_true.mp (by decide))) (hdistinct "./a \"b\".md/.") "\n" (.inr rfl)
  have hrefused := parse_written _ (hfits "./." (List.all_eq_true.mp (by decide))) (hdistinct _) "" (.inl rfl)
  obtain ⟨cause, -, hcause⟩ := hrefused.2.1 hunusable
  exact ⟨by decide, hfits _ (List.all_eq_true.mp (by decide)), hdistinct _, (hread.1 husable).trans rfl, _, hcause⟩

end Config

end Scaffold
