import Scaffold.Command.Basic
import Scaffold.Proofs.Command.Phrases

namespace Scaffold.Command

inductive Request where
  | generate (path : String) (outputDir config format : Option String)
  | init (output : Option String)
  | package (path : String) (output folder : Option String)
  deriving DecidableEq, Repr

namespace Request

def given (short : Char) (long : String) (choice : Option String) : List Phrase :=
  choice.toList.map (.option short long)

def options : Request → List Phrase
  | generate _ outputDir config format =>
    given 'o' "output-dir" outputDir ++ given 'c' "config" config ++ given 'f' "format" format
  | init output => given 'o' "output" output
  | package _ output folder => given 'o' "output" output ++ given 'p' "prefix" folder

def path? : Request → Option String
  | generate path .. | package path .. => some path
  | init _ => none

def phrases (q : Request) : List Phrase := q.options ++ (q.path?.map Phrase.operand).toList

def IsFilled (q : Request) : Prop := ∀ p ∈ q.phrases, p.IsFilled

def command : Request → Command
  | generate path outputDir config format => .generate ⟨path, outputDir, config, format.getD "pretty"⟩
  | init output => .init ⟨output.getD "testpilot.yaml"⟩
  | package path output folder => .package ⟨path, output, folder⟩

def name : Request → String
  | generate .. => "generate"
  | init _ => "init"
  | package .. => "package"

def otherNames : Request → List String
  | generate .. => ["gen"]
  | init _ | package .. => []

def level : Request → Level
  | generate .. => generateLevel
  | init _ => initLevel
  | package .. => packageLevel

/-- The texts that may follow the name of the command, where more is said. All phrases come in any order, or the path
comes last, after two dashes. -/
inductive Follows (q : Request) (more : List Phrase) : List String → Prop
  | mixed {ps : List Phrase} {texts : List String} (horder : ps.Perm (more ++ q.phrases))
      (htexts : Phrase.AllSpelled ps texts) : Follows q more texts
  | dashed {path : String} {ps : List Phrase} {texts : List String} (hpath : q.path? = some path)
      (horder : ps.Perm (more ++ q.options)) (htexts : Phrase.AllSpelled ps texts) :
      Follows q more (texts ++ ["--", path])

/-- The command lines for a request, by whether they ask to be told more. -/
inductive Line (q : Request) : Bool → List String → Prop
  | quiet {name : String} {texts : List String} (hname : name ∈ q.name :: q.otherNames)
      (htexts : q.Follows [] texts) : Line q false (name :: texts)
  | verboseBefore {name : String} {flag texts : List String} (hflag : Phrase.verbose.Spelled flag)
      (hname : name ∈ q.name :: q.otherNames) (htexts : q.Follows [] texts) :
      Line q true (flag ++ name :: texts)
  | verboseAfter {name : String} {texts : List String} (hname : name ∈ q.name :: q.otherNames)
      (htexts : q.Follows [.verbose] texts) : Line q true (name :: texts)

variable {q : Request} {more ps : List Phrase} {texts : List String} {s : Reading}

theorem understood_verbose (q : Request) : Phrase.verbose.Understood q.level := by
  cases q <;> exact .verbose rfl rfl

theorem understood_given {l : Level} {short : Char} {long : String}
    (hlevel : ∀ value, value ≠ "" → (Phrase.option short long value).Understood l) (choice : Option String) :
    ∀ p ∈ given short long choice, p.IsFilled → p.Understood l := by
  intro p hp hfilled
  obtain ⟨value, -, rfl⟩ := List.mem_map.mp hp
  exact hlevel value hfilled

theorem understood_path (q : Request) :
    ∀ p ∈ (q.path?.map Phrase.operand).toList, p.IsFilled → p.Understood q.level := by
  cases q with
  | generate | package => exact List.forall_mem_singleton.mpr (.operand rfl)
  | init => exact List.forall_mem_nil _

theorem understood_options (q : Request) : ∀ p ∈ q.options, p.IsFilled → p.Understood q.level := by
  cases q with
  | generate path outputDir config format =>
      refine List.forall_mem_append.mpr ⟨List.forall_mem_append.mpr ⟨?outputDir, ?config⟩, ?format⟩ <;>
        exact understood_given (fun _ => .option rfl rfl rfl (by decide) (by decide) (by decide)) _
  | init output => exact understood_given (fun _ => .option rfl rfl rfl (by decide) (by decide) (by decide)) _
  | package path output folder =>
      refine List.forall_mem_append.mpr ⟨?output, ?folder⟩ <;>
        exact understood_given (fun _ => .option rfl rfl rfl (by decide) (by decide) (by decide)) _

theorem understood (hq : q.IsFilled) : ∀ p ∈ .verbose :: q.phrases, p.Understood q.level :=
  List.forall_mem_cons.mpr ⟨understood_verbose q, fun p hp =>
    List.forall_mem_append.mpr ⟨understood_options q, understood_path q⟩ p hp (hq p hp)⟩

theorem nodup_names (q : Request) : ((.verbose :: q.phrases).map Phrase.name).Nodup := by
  cases q with
  | generate path outputDir config format =>
      cases outputDir <;> cases config <;> cases format <;>
        simp [phrases, options, given, path?, Phrase.name]
  | init output => cases output <;> simp [phrases, options, given, path?, Phrase.name]
  | package path output folder =>
      cases output <;> cases folder <;> simp [phrases, options, given, path?, Phrase.name]

theorem Follows.readLevel_eq_ok (h : q.Follows more texts) (hq : q.IsFilled) (hmore : more.Sublist [.verbose]) :
    ∃ s, Reading.readLevel q.level texts .start = .ok (s, none) ∧ s.Means (more ++ q.phrases) := by
  have hcommands : q.level.commands = [] := by cases q <;> rfl
  have hall : (more ++ q.phrases).Sublist (.verbose :: q.phrases) := hmore.append_right q.phrases
  have hnames : ((more ++ q.phrases).map Phrase.name).Nodup := (nodup_names q).sublist (hall.map _)
  cases h with
  | @mixed ps _ horder htexts =>
      have hps : ∀ p ∈ ps, p.Understood q.level := fun p hp => understood hq p (hall.subset (horder.subset hp))
      obtain ⟨s, hs, hmeans⟩ :=
        Reading.readLevel_phrases hcommands htexts hps ((horder.map _).nodup_iff.mpr hnames)
      exact ⟨s, hs, hmeans.perm horder⟩
  | @dashed path ps texts hpath horder htexts =>
      have horder' : (ps ++ [Phrase.operand path]).Perm (more ++ q.phrases) := by
        rw [phrases, hpath, ← List.append_assoc]
        exact horder.append_right _
      have hps : ∀ p ∈ ps ++ [Phrase.operand path], p.Understood q.level :=
        fun p hp => understood hq p (hall.subset (horder'.subset hp))
      rw [List.forall_mem_append, List.forall_mem_singleton] at hps
      obtain ⟨s, hs, hmeans⟩ :=
        Reading.readLevel_dashed hcommands htexts hps.1 hps.2 ((horder'.map _).nodup_iff.mpr hnames)
      exact ⟨s, hs, hmeans.perm horder'⟩

theorem value?_eq {l : Level} {long : String} {choice : Option String} (hmeans : s.Means ps)
    (hchoice : ∀ value, (∃ short, .option short long value ∈ ps) ↔ choice = some value) :
    s.value? l long = choice.or (Reading.start.value? l long) := by
  rw [Reading.value?]
  cases hfind : s.values.find? fun p => p.1.long = long with
  | some entry =>
      obtain ⟨a, value⟩ := entry
      have hlong : a.long = long := by simpa using List.find?_some hfind
      have hvalue := (hmeans.values long value).mp ⟨a, List.mem_of_find?_eq_some hfind, hlong⟩
      rw [(hchoice value).mp hvalue]
      rfl
  | none =>
      have hnone : choice = none := by
        rw [Option.eq_none_iff_forall_ne_some]
        intro value hvalue
        obtain ⟨a, hmem, hlong⟩ := (hmeans.values long value).mpr ((hchoice value).mpr hvalue)
        exact absurd hlong (by simpa using List.find?_eq_none.mp hfind _ hmem)
      rw [hnone]
      rfl

theorem ofReading_eq_ok (hmeans : s.Means (more ++ q.phrases)) (hmore : more.Sublist [.verbose]) :
    ofReading q.name s = .ok q.command := by
  have hoption : ∀ short long value, Phrase.option short long value ∉ more := by
    intro short long value hmem
    simpa using hmore.subset hmem
  cases q with
  | generate path outputDir config format =>
      have hpath : s.operand = some path := (hmeans.operand path).mpr (by simp [phrases, path?])
      have houtputDir : s.value? generateLevel "output-dir" = outputDir.or none :=
        value?_eq hmeans fun value => by simp [phrases, options, given, path?, hoption]
      have hconfig : s.value? generateLevel "config" = config.or none :=
        value?_eq hmeans fun value => by simp [phrases, options, given, path?, hoption]
      have hformat : s.value? generateLevel "format" = format.or (some "pretty") :=
        value?_eq hmeans fun value => by simp [phrases, options, given, path?, hoption]
      simp only [ofReading, Request.name, requireOperand, hpath, houtputDir, hconfig, hformat, Option.or_none]
      cases format <;> rfl
  | init output =>
      have houtput : s.value? initLevel "output" = output.or (some "testpilot.yaml") :=
        value?_eq hmeans fun value => by simp [phrases, options, given, path?, hoption]
      simp only [ofReading, Request.name, houtput]
      cases output <;> rfl
  | package path output folder =>
      have hpath : s.operand = some path := (hmeans.operand path).mpr (by simp [phrases, path?])
      have houtput : s.value? packageLevel "output" = output.or none :=
        value?_eq hmeans fun value => by simp [phrases, options, given, path?, hoption]
      have hfolder : s.value? packageLevel "prefix" = folder.or none :=
        value?_eq hmeans fun value => by simp [phrases, options, given, path?, hoption]
      simp only [ofReading, Request.name, requireOperand, hpath, houtput, hfolder, Option.or_none]
      rfl

/-- The flag before the name of a command is read at the top. -/
theorem readLevel_flag {flag : List String} (h : Phrase.verbose.Spelled flag) :
    Reading.readLevel topLevel (flag ++ texts) .start =
      Reading.readLevel topLevel texts { Reading.start with verbose := true } := by
  cases h with
  | verbose | verboseShort => rfl

theorem readLevel_name {name : String} (hname : name ∈ q.name :: q.otherNames) (texts : List String)
    (verbose : Bool) : ∃ e, Reading.readLevel topLevel (name :: texts) { Reading.start with verbose := verbose } =
      .ok ({ Reading.start with verbose := verbose }, some (e, texts)) ∧ e.name = q.name := by
  cases q with
  | generate path outputDir config format =>
      obtain rfl | rfl : name = "generate" ∨ name = "gen" := by simpa [Request.name, otherNames] using hname
      · exact ⟨_, rfl, rfl⟩
      · exact ⟨_, rfl, rfl⟩
  | init output =>
      obtain rfl : name = "init" := by simpa [Request.name, otherNames] using hname
      exact ⟨_, rfl, rfl⟩
  | package path output folder =>
      obtain rfl : name = "package" := by simpa [Request.name, otherNames] using hname
      exact ⟨_, rfl, rfl⟩

theorem parse_eq_ok {name : String} {line : List String} {top verbose : Bool} (hq : q.IsFilled)
    (htop : Reading.readLevel topLevel line .start =
      Reading.readLevel topLevel (name :: texts) { Reading.start with verbose := top })
    (hname : name ∈ q.name :: q.otherNames) (hfollows : q.Follows more texts) (hmore : more.Sublist [.verbose])
    (hverbose : verbose = true ↔ top = true ∨ .verbose ∈ more) : parse line = .ok ⟨q.command, verbose⟩ := by
  obtain ⟨e, he, hename⟩ := readLevel_name hname texts top
  obtain ⟨s, hs, hmeans⟩ := hfollows.readLevel_eq_ok hq hmore
  have hhelp : e.name ≠ "help" := by rw [hename]; cases q <;> simp [Request.name]
  have hlevel : levelOf e.name = q.level := by rw [hename]; cases q <;> rfl
  have hcommand : ofReading e.name s = .ok q.command := by rw [hename]; exact ofReading_eq_ok hmeans hmore
  have hboth : (top || s.verbose) = verbose := by
    have hquiet : Phrase.verbose ∉ q.phrases :=
      fun hmem => (List.nodup_cons.mp (nodup_names q)).1 (List.mem_map_of_mem hmem)
    rw [Bool.eq_iff_iff, hverbose, Bool.or_eq_true, hmeans.verbose, List.mem_append]
    simp [hquiet]
  rw [parse, htop, he]
  change (if e.name = "help" then _ else _) = _
  rw [if_neg hhelp, hlevel, hs]
  change (ofReading e.name s >>= _) = _
  rw [hcommand, ← hboth]
  rfl

end Request

/-- Every way to write a request is read as its values, with the defaults for what is not given, and so all of them are
read as the same. -/
theorem parse_line {q : Request} {verbose : Bool} {line : List String} (hq : q.IsFilled)
    (hline : q.Line verbose line) :
    parse line = .ok ⟨q.command, verbose⟩ ∧ ∀ other, q.Line verbose other → parse other = parse line := by
  have hparse : ∀ other, q.Line verbose other → parse other = .ok ⟨q.command, verbose⟩ := by
    intro other hother
    cases hother with
    | quiet hname htexts => exact Request.parse_eq_ok hq rfl hname htexts (List.nil_sublist _) (by simp)
    | verboseBefore hflag hname htexts =>
        exact Request.parse_eq_ok hq (Request.readLevel_flag hflag) hname htexts (List.nil_sublist _) (by simp)
    | verboseAfter hname htexts =>
        exact Request.parse_eq_ok hq rfl hname htexts (List.Sublist.refl _) (by simp)
  exact ⟨hparse line hline, fun other hother => (hparse other hother).trans (hparse line hline).symm⟩

theorem parse_line_crossed :
    (Request.generate "a=b c.py" (some "-out") (some "generate") (some "json")).IsFilled ∧
      (Request.generate "a=b c.py" (some "-out") (some "generate") (some "json")).Line true
        ["-v", "gen", "-o=-out", "a=b c.py", "--config", "generate", "-fjson"] ∧
      parse ["-v", "gen", "-o=-out", "a=b c.py", "--config", "generate", "-fjson"] =
        .ok ⟨.generate ⟨"a=b c.py", some "-out", some "generate", "json"⟩, true⟩ := by
  have hfilled : (Request.generate "a=b c.py" (some "-out") (some "generate") (some "json")).IsFilled := by
    simp [Request.IsFilled, Request.phrases, Request.options, Request.given, Request.path?, Phrase.IsFilled]
  have hspelled : Phrase.AllSpelled
      [.option 'o' "output-dir" "-out", .operand "a=b c.py", .option 'c' "config" "generate",
        .option 'f' "format" "json"]
      ["-o=-out", "a=b c.py", "--config", "generate", "-fjson"] :=
    .cons .shortJoined (.cons (.operand (by decide)) (.cons (.long (by decide))
      (.cons (.shortAttached (by decide) (by decide)) .nil)))
  have hline : (Request.generate "a=b c.py" (some "-out") (some "generate") (some "json")).Line true
      ["-v", "gen", "-o=-out", "a=b c.py", "--config", "generate", "-fjson"] :=
    .verboseBefore .verboseShort (by decide) (.mixed (by decide) hspelled)
  exact ⟨hfilled, hline, (parse_line hfilled hline).1⟩

end Scaffold.Command
