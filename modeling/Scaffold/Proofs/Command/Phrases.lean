import Scaffold.Command.Parser
import Scaffold.Proofs.Text.Beginnings

namespace Scaffold.Command

inductive Phrase where
  | option (short : Char) (long value : String)
  | verbose
  | operand (text : String)
  deriving DecidableEq, Repr

namespace Phrase

def IsBare (text : String) : Prop := text.toList.head? ≠ some '-'

instance (text : String) : Decidable (IsBare text) := inferInstanceAs (Decidable (_ ≠ _))

def IsFilled : Phrase → Prop
  | option _ _ text | operand text => text ≠ ""
  | verbose => True

inductive Spelled : Phrase → List String → Prop
  | long {short : Char} {long value : String} (h : IsBare value) :
      Spelled (.option short long value) ["--" ++ long, value]
  | longJoined {short : Char} {long value : String} :
      Spelled (.option short long value) ["--" ++ long ++ "=" ++ value]
  | short {short : Char} {long value : String} (h : IsBare value) :
      Spelled (.option short long value) ["-" ++ String.singleton short, value]
  | shortAttached {short : Char} {long value : String} (h : IsBare value)
      (hequals : value.toList.head? ≠ some '=') :
      Spelled (.option short long value) ["-" ++ String.singleton short ++ value]
  | shortJoined {short : Char} {long value : String} :
      Spelled (.option short long value) ["-" ++ String.singleton short ++ "=" ++ value]
  | verbose : Spelled .verbose ["--verbose"]
  | verboseShort : Spelled .verbose ["-v"]
  | operand {text : String} (h : IsBare text) : Spelled (.operand text) [text]

inductive AllSpelled : List Phrase → List String → Prop
  | nil : AllSpelled [] []
  | cons {p : Phrase} {ps : List Phrase} {texts rest : List String} (h : p.Spelled texts)
      (hrest : AllSpelled ps rest) : AllSpelled (p :: ps) (texts ++ rest)

def name : Phrase → String
  | option _ long _ => long
  | verbose => "verbose"
  | operand _ => ""

theorem name_notMem {p : Phrase} {ps qs : List Phrase} (h : ((ps ++ p :: qs).map name).Nodup) :
    p.name ∉ ps.map name := by
  rw [List.map_append, List.nodup_append] at h
  exact fun hmem => h.2.2 _ hmem _ (List.mem_map_of_mem List.mem_cons_self) rfl

inductive Understood (l : Level) : Phrase → Prop
  | option {short : Char} {long value : String} {a : Argument} (hshort : l.short? short = some a)
      (hlong : l.long? long = some a) (htakes : Reading.takesValue a = true) (hdash : short ≠ '-')
      (hname : long ≠ "") (hequals : '=' ∉ long.toList) (hvalue : value ≠ "") :
      Understood l (.option short long value)
  | verbose (hshort : l.short? 'v' = some .verboseFlag) (hlong : l.long? "verbose" = some .verboseFlag) :
      Understood l .verbose
  | operand {o : Operand} {text : String} (hoperand : l.operand = some o) (htext : text ≠ "") :
      Understood l (.operand text)

end Phrase

namespace Reading

open Phrase (IsBare)

variable {l : Level} {a : Argument} {r s : Reading} {text value : String} {p : Phrase} {ps : List Phrase}

theorem readText_long {long : List Char} (hmixed : r.onlyOperands = false) (hne : long ≠ [])
    (htext : text.toList = '-' :: '-' :: long) : r.readText l text = r.readLong l long := by
  obtain ⟨c, cs, rfl⟩ := List.exists_cons_of_ne_nil hne
  rw [readText, hmixed, htext]
  rfl

theorem readText_short {c : Char} {more : List Char} (hmixed : r.onlyOperands = false) (hc : c ≠ '-')
    (htext : text.toList = '-' :: c :: more) : r.readText l text = readShort l (c :: more) r := by
  rw [readText, hmixed, htext]
  simp [hc]

theorem readText_value (hmixed : r.onlyOperands = false) (hwaits : r.pending = some (.argument a none))
    (h : IsBare text) : r.readText l text = .ok { r with pending := some (.argument a (some text)) } := by
  rw [readText, hmixed, hwaits]
  cases hchars : text.toList with
  | nil => rfl
  | cons c cs =>
      have hc : c ≠ '-' := by simpa [IsBare, hchars] using h
      simp [hc]

theorem readText_operand (hmixed : r.onlyOperands = false) (hwaits : r.awaitsValue = false) (h : IsBare text) :
    r.readText l text = r.readOperand l text := by
  rw [readText, hmixed]
  cases hchars : text.toList with
  | nil =>
      rcases hpending : r.pending with _ | ⟨a, _ | w⟩ | ⟨o, w⟩
      · rfl
      · simp [awaitsValue, hpending] at hwaits
      · rfl
      · rfl
  | cons c cs =>
      have hc : c ≠ '-' := by simpa [IsBare, hchars] using h
      rcases hpending : r.pending with _ | ⟨a, _ | w⟩ | ⟨o, w⟩
      · simp [hc]
      · simp [awaitsValue, hpending] at hwaits
      · simp [hc]
      · simp [hc]

theorem readLong_plain {name : String} (hlong : l.long? name = some a) (hequals : '=' ∉ name.toList) :
    r.readLong l name.toList = if takesValue a then r.await l a else r.raise l a := by
  have hname : name.toList.takeWhile (· ≠ '=') = name.toList :=
    List.takeWhile_eq_self_iff.mpr (Text.ne_of_not_mem hequals)
  simp only [readLong, hname, String.ofList_toList, hlong, Nat.lt_irrefl, if_false]

theorem readLong_joined {name : String} (hlong : l.long? name = some a) (htakes : takesValue a = true)
    (hequals : '=' ∉ name.toList) :
    r.readLong l (name.toList ++ '=' :: value.toList) = r.attach l a value := by
  have hname : (name.toList ++ '=' :: value.toList).takeWhile (· ≠ '=') = name.toList :=
    Text.takeWhile_until hequals _
  have hlength : name.toList.length < (name.toList ++ '=' :: value.toList).length := by simp
  have hrest : (name.toList ++ '=' :: value.toList).drop (name.toList.length + 1) = value.toList := by
    simp [List.drop_append]
  simp only [readLong, hname, String.ofList_toList, hlong, hlength, hrest, htakes, if_true]

theorem readShort_apart {c : Char} (hshort : l.short? c = some a) (htakes : takesValue a = true) :
    readShort l [c] r = r.await l a := by
  simp [readShort, hshort, htakes]

theorem readShort_joined {c : Char} (hshort : l.short? c = some a) (htakes : takesValue a = true) :
    readShort l (c :: '=' :: value.toList) r = r.attach l a value := by
  simp [readShort, hshort, htakes]

theorem readShort_attached {c : Char} (hshort : l.short? c = some a) (htakes : takesValue a = true)
    (hne : value ≠ "") (hequals : value.toList.head? ≠ some '=') :
    readShort l (c :: value.toList) r = r.attach l a value := by
  obtain ⟨d, ds, hvalue⟩ := List.exists_cons_of_ne_nil (show value.toList ≠ [] by simpa using hne)
  have hd : d ≠ '=' := by simpa [hvalue] using hequals
  have htext : String.ofList (d :: ds) = value := by rw [← hvalue, String.ofList_toList]
  rw [hvalue, readShort, hshort]
  simp only [htakes, if_true]
  split
  · next h => cases h
  · next h => cases h; exact absurd rfl hd
  · rw [htext]

theorem takesValue_verboseFlag : takesValue .verboseFlag = false := rfl

theorem readShort_plain {c : Char} (hshort : l.short? c = some a) (htakes : takesValue a = false) :
    readShort l [c] r = r.raise l a := by
  rw [readShort, hshort]
  simp only [htakes, Bool.false_eq_true, if_false]
  cases r.raise l a with
  | ok r => rfl
  | error e => rfl

structure Means (s : Reading) (ps : List Phrase) : Prop where
  verbose : s.verbose = true ↔ .verbose ∈ ps
  values : ∀ long value, (∃ a, (a, value) ∈ s.values ∧ a.long = long) ↔ ∃ short, .option short long value ∈ ps
  operand : ∀ text, s.operand = some text ↔ .operand text ∈ ps

/-- What was read means phrases once what waits is taken, and no value has still to come. -/
structure HasRead (l : Level) (r s : Reading) (ps : List Phrase) : Prop where
  settles : r.settle l = .ok s
  pending : s.pending = none
  mixed : s.onlyOperands = false
  means : s.Means ps
  awaits : r.awaitsValue = false

theorem hasRead_start (l : Level) : HasRead l .start .start [] :=
  ⟨rfl, rfl, rfl, ⟨by simp [start], by simp [start], by simp [start]⟩, rfl⟩

theorem Means.perm {qs : List Phrase} (h : s.Means ps) (horder : ps.Perm qs) : s.Means qs :=
  ⟨by rw [h.verbose, horder.mem_iff], by simpa only [horder.mem_iff] using h.values,
    by simpa only [horder.mem_iff] using h.operand⟩

theorem has_eq_false (hmeans : s.Means ps) (hnew : a.long ∉ ps.map Phrase.name) : s.has a = false := by
  rw [has, List.any_eq_false]
  rintro ⟨b, v⟩ hmem hb
  obtain rfl : b = a := by simpa using hb
  obtain ⟨short, hsaid⟩ := (hmeans.values b.long v).mp ⟨b, hmem, rfl⟩
  exact hnew (List.mem_map.mpr ⟨_, hsaid, rfl⟩)

theorem take_eq_ok (htakes : takesValue a = true) (hnew : s.has a = false) (hvalue : value ≠ "") :
    s.take l a value = .ok { s with values := s.values ++ [(a, value)] } := by
  rw [take]
  cases haction : a.action with
  | value name isPath preset => simp [hnew, hvalue]
  | verbose | help | version => simp [takesValue, haction] at htakes

theorem settle_of_pending (h : s.pending = none) : s.settle l = .ok s := by
  rw [settle, h]

theorem settle_operand (h : s.pending = none) (o : Operand) (htext : text ≠ "") :
    { s with pending := some (.operand o text) }.settle l = .ok { s with operand := some text } := by
  have hsame : { s with pending := none } = s := by rw [← h]
  change (if text = "" then _ else Except.ok { { s with pending := none } with operand := some text }) = _
  rw [if_neg htext, hsame]

/-- Taking what waits changes neither whether only operands follow nor whether there is an operand. -/
theorem settle_ok (h : r.settle l = .ok s) :
    s.onlyOperands = r.onlyOperands ∧ r.hasOperand = s.operand.isSome := by
  rw [settle] at h
  rcases hpending : r.pending with _ | ⟨a, _ | w⟩ | ⟨o, w⟩
  · rw [hpending] at h
    obtain rfl : r = s := Except.ok.inj h
    simp [hasOperand, hpending]
  · simp [hpending] at h
  · simp only [hpending, take] at h
    split at h
    · split at h
      · cases h
      · split at h
        · cases h
        · cases h
          simp [hasOperand, hpending]
    · cases h
      simp [hasOperand, hpending]
  · simp only [hpending] at h
    split at h
    · cases h
    · cases h
      simp [hasOperand, hpending]

theorem Means.option (h : s.Means ps) (a : Argument) (value : String) :
    Means { s with values := s.values ++ [(a, value)] } (ps ++ [.option a.short a.long value]) := by
  refine ⟨?_, fun long v => ?_, fun text => ?_⟩
  · simpa using h.verbose
  · simp only [List.mem_append, List.mem_singleton, Prod.mk.injEq, Phrase.option.injEq]
    constructor
    · rintro ⟨b, hb | ⟨rfl, rfl⟩, rfl⟩
      · obtain ⟨short, hsaid⟩ := (h.values b.long v).mp ⟨b, hb, rfl⟩
        exact ⟨short, .inl hsaid⟩
      · exact ⟨b.short, .inr ⟨rfl, rfl, rfl⟩⟩
    · rintro ⟨short, hsaid | ⟨rfl, rfl, rfl⟩⟩
      · obtain ⟨b, hb, hlong⟩ := (h.values long v).mpr ⟨short, hsaid⟩
        exact ⟨b, .inl hb, hlong⟩
      · exact ⟨a, .inr ⟨rfl, rfl⟩, rfl⟩
  · simpa using h.operand text

theorem Means.raised (h : s.Means ps) : Means { s with verbose := true } (ps ++ [.verbose]) :=
  ⟨by simp, by simpa using h.values, by simpa using h.operand⟩

theorem Means.operated (h : s.Means ps) (hnone : s.operand = none) (text : String) :
    Means { s with operand := some text } (ps ++ [.operand text]) := by
  refine ⟨by simpa using h.verbose, by simpa using h.values, fun other => ?_⟩
  have hother : .operand other ∉ ps := by simp [← h.operand other, hnone]
  simp [hother, eq_comm]

theorem readOperand_eq_ok {o : Operand} (hsettles : r.settle l = .ok s) (hmeans : s.Means ps)
    (hoperand : l.operand = some o) (hnew : Phrase.name (.operand text) ∉ ps.map Phrase.name) :
    r.readOperand l text = .ok { s with pending := some (.operand o text) } ∧ s.operand = none := by
  have hnone : s.operand = none := by
    rw [Option.eq_none_iff_forall_ne_some]
    intro other hother
    exact hnew (List.mem_map.mpr ⟨_, (hmeans.operand other).mp hother, rfl⟩)
  have hhas : r.hasOperand = false := by rw [(settle_ok hsettles).2, hnone]; rfl
  refine ⟨?_, hnone⟩
  rw [readOperand, hoperand, hhas, hsettles]
  rfl

namespace HasRead

theorem option (h : HasRead l r s ps) (a : Argument) (value : String) :
    HasRead l { s with values := s.values ++ [(a, value)] } { s with values := s.values ++ [(a, value)] }
      (ps ++ [.option a.short a.long value]) :=
  ⟨settle_of_pending h.pending, h.pending, h.mixed, h.means.option a value, by simp [awaitsValue, h.pending]⟩

theorem attach_eq_ok (h : HasRead l r s ps) (htakes : takesValue a = true) (hnew : a.long ∉ ps.map Phrase.name)
    (hvalue : value ≠ "") : r.attach l a value = .ok { s with values := s.values ++ [(a, value)] } := by
  rw [attach, h.settles]
  exact take_eq_ok htakes (has_eq_false h.means hnew) hvalue

theorem await_eq_ok (h : HasRead l r s ps) (htakes : takesValue a = true) (hnew : a.long ∉ ps.map Phrase.name)
    (hvalue : value ≠ "") (hbare : IsBare value) :
    ∃ waiting read, r.await l a = .ok waiting ∧ waiting.readText l value = .ok read ∧
      HasRead l read { s with values := s.values ++ [(a, value)] } (ps ++ [.option a.short a.long value]) := by
  refine ⟨{ s with pending := some (.argument a none) }, { s with pending := some (.argument a (some value)) },
    ?_, readText_value h.mixed rfl hbare, ?_⟩
  · rw [await, h.settles]
    rfl
  · have hsame : { s with pending := none } = s := by rw [← h.pending]
    have hoption := h.option a value
    refine ⟨?_, hoption.pending, hoption.mixed, hoption.means, rfl⟩
    exact (congrArg (take l a value) hsame).trans (take_eq_ok htakes (has_eq_false h.means hnew) hvalue)

theorem raise_eq_ok (h : HasRead l r s ps) (hnew : Phrase.name .verbose ∉ ps.map Phrase.name) :
    r.raise l .verboseFlag = .ok { s with verbose := true } ∧
      HasRead l { s with verbose := true } { s with verbose := true } (ps ++ [.verbose]) := by
  have hquiet : s.verbose = false := by
    rw [Bool.eq_false_iff, Ne, h.means.verbose]
    exact fun hsaid => hnew (List.mem_map.mpr ⟨_, hsaid, rfl⟩)
  refine ⟨?_, settle_of_pending h.pending, h.pending, h.mixed, h.means.raised, by simp [awaitsValue, h.pending]⟩
  rw [raise, h.settles]
  change (if s.verbose then _ else _) = _
  rw [hquiet]
  rfl

theorem onlyOperands (h : HasRead l r s ps) : r.onlyOperands = false := by
  rw [← (settle_ok h.settles).1, h.mixed]

theorem operand (h : HasRead l r s ps) (hnone : s.operand = none) (o : Operand) (htext : text ≠ "") :
    HasRead l { s with pending := some (.operand o text) } { s with operand := some text }
      (ps ++ [.operand text]) :=
  ⟨settle_operand h.pending o htext, h.pending, h.mixed, h.means.operated hnone text, rfl⟩

end HasRead

theorem readLevel_cons {rest : List String} (hcommands : l.commands = []) (h : r.readText l text = .ok s) :
    readLevel l (text :: rest) r = readLevel l rest s := by
  have hcommand : l.command? text = none := by rw [Level.command?, hcommands, List.find?_nil]
  rw [readLevel, hcommand, ite_self, h]

/-- A value that stands apart is a text of its own, and its argument only waits when it is read. -/
theorem HasRead.apart {flag : String} (h : HasRead l r s ps) (hcommands : l.commands = [])
    (hflag : r.readText l flag = r.await l a) (htakes : takesValue a = true)
    (hnew : a.long ∉ ps.map Phrase.name) (hvalue : value ≠ "") (hbare : IsBare value) :
    ∃ read said, HasRead l read said (ps ++ [.option a.short a.long value]) ∧
      ∀ rest, readLevel l ([flag, value] ++ rest) r = readLevel l rest read := by
  obtain ⟨waiting, read, hawait, htake, hread⟩ := h.await_eq_ok htakes hnew hvalue hbare
  refine ⟨read, _, hread, fun rest => ?_⟩
  exact (readLevel_cons hcommands (hflag.trans hawait)).trans (readLevel_cons hcommands htake)

theorem HasRead.attached {flag : String} (h : HasRead l r s ps) (hcommands : l.commands = [])
    (hflag : r.readText l flag = r.attach l a value) (htakes : takesValue a = true)
    (hnew : a.long ∉ ps.map Phrase.name) (hvalue : value ≠ "") :
    ∃ read said, HasRead l read said (ps ++ [.option a.short a.long value]) ∧
      ∀ rest, readLevel l ([flag] ++ rest) r = readLevel l rest read :=
  ⟨_, _, h.option a value,
    fun _ => readLevel_cons hcommands (hflag.trans (h.attach_eq_ok htakes hnew hvalue))⟩

/-- What a phrase means is read, however it is written. -/
theorem HasRead.phrase {texts : List String} (h : HasRead l r s ps) (hcommands : l.commands = [])
    (hp : p.Understood l) (hnew : p.name ∉ ps.map Phrase.name) (hspelled : p.Spelled texts) :
    ∃ read said, HasRead l read said (ps ++ [p]) ∧
      ∀ rest, readLevel l (texts ++ rest) r = readLevel l rest read := by
  have hmixed := h.onlyOperands
  cases hp with
  | @option short long value a hshort hlong htakes hdash hname hequals hvalue =>
      obtain rfl : a.short = short := by simpa using List.find?_some hshort
      obtain rfl : a.long = long := by simpa using List.find?_some hlong
      cases hspelled with
      | long hbare =>
          have hname' : a.long.toList ≠ [] := by simpa using hname
          refine h.apart hcommands ?_ htakes hnew hvalue hbare
          rw [readText_long hmixed hname' (by simp), readLong_plain hlong hequals, if_pos htakes]
      | longJoined =>
          have hname' : a.long.toList ++ '=' :: value.toList ≠ [] := by simp
          refine h.attached hcommands ?_ htakes hnew hvalue
          rw [readText_long hmixed hname' (by simp), readLong_joined hlong htakes hequals]
      | short hbare =>
          have htext : ("-" ++ String.singleton a.short).toList = '-' :: a.short :: [] := by simp
          refine h.apart hcommands ?_ htakes hnew hvalue hbare
          rw [readText_short hmixed hdash htext, readShort_apart hshort htakes]
      | shortAttached hbare hfirst =>
          have htext : ("-" ++ String.singleton a.short ++ value).toList = '-' :: a.short :: value.toList := by simp
          refine h.attached hcommands ?_ htakes hnew hvalue
          rw [readText_short hmixed hdash htext, readShort_attached hshort htakes hvalue hfirst]
      | shortJoined =>
          have htext : ("-" ++ String.singleton a.short ++ "=" ++ value).toList =
              '-' :: a.short :: '=' :: value.toList := by simp
          refine h.attached hcommands ?_ htakes hnew hvalue
          rw [readText_short hmixed hdash htext, readShort_joined hshort htakes]
  | verbose hshort hlong =>
      obtain ⟨hraise, hread⟩ := h.raise_eq_ok hnew
      refine ⟨_, _, hread, fun rest => ?_⟩
      cases hspelled with
      | verbose =>
          have htext : "--verbose".toList = '-' :: '-' :: "verbose".toList := rfl
          refine readLevel_cons hcommands ?_
          rw [readText_long hmixed (by decide) htext, readLong_plain hlong (by decide), takesValue_verboseFlag]
          exact hraise
      | verboseShort =>
          have htext : "-v".toList = '-' :: 'v' :: [] := rfl
          refine readLevel_cons hcommands ?_
          rw [readText_short hmixed (by decide) htext, readShort_plain hshort takesValue_verboseFlag, hraise]
  | @operand o text hoperand htext =>
      obtain ⟨hreads, hnone⟩ := readOperand_eq_ok h.settles h.means hoperand hnew
      cases hspelled with
      | operand hbare =>
          refine ⟨_, _, h.operand hnone o htext, fun rest => readLevel_cons hcommands ?_⟩
          rw [readText_operand hmixed h.awaits hbare, hreads]

/-- Phrases are read one after another. -/
theorem HasRead.phrases {said : List Phrase} {texts : List String} (h : HasRead l r s said)
    (hcommands : l.commands = []) (hspelled : Phrase.AllSpelled ps texts) (hps : ∀ p ∈ ps, p.Understood l)
    (hnodup : ((said ++ ps).map Phrase.name).Nodup) :
    ∃ read s', HasRead l read s' (said ++ ps) ∧ ∀ rest, readLevel l (texts ++ rest) r = readLevel l rest read := by
  -- what was said before and what waits of it change from phrase to phrase, and `HasRead` holds of them after each
  induction hspelled generalizing r s said with
  | nil => exact ⟨r, s, by rwa [List.append_nil], fun rest => rfl⟩
  | @cons p ps texts more hp _ ih =>
      have hsaid : said ++ p :: ps = said ++ [p] ++ ps := by simp
      obtain ⟨read, s₁, hread, hfirst⟩ := h.phrase hcommands (hps p List.mem_cons_self) (Phrase.name_notMem hnodup) hp
      obtain ⟨read', s₂, hread', hrest⟩ :=
        ih hread (fun q hq => hps q (List.mem_cons_of_mem _ hq)) (hsaid ▸ hnodup)
      refine ⟨read', s₂, hsaid ▸ hread', fun rest => ?_⟩
      rw [List.append_assoc, hfirst, hrest]

/-- A level without commands reads phrases as what they say. -/
theorem readLevel_phrases {texts : List String} (hcommands : l.commands = []) (hspelled : Phrase.AllSpelled ps texts)
    (hps : ∀ p ∈ ps, p.Understood l) (hnodup : (ps.map Phrase.name).Nodup) :
    ∃ s, readLevel l texts .start = .ok (s, none) ∧ s.Means ps := by
  obtain ⟨read, s, hread, hrest⟩ := (hasRead_start l).phrases hcommands hspelled hps hnodup
  refine ⟨s, ?_, hread.means⟩
  rw [← List.append_nil texts, hrest, readLevel, hread.settles]
  rfl

def dashed (r : Reading) : Reading := { r with onlyOperands := true }

theorem take_dashed : r.dashed.take l a value = (r.take l a value).map dashed := by
  rw [take, take]
  cases a.action with
  | value name isPath preset =>
      have hhas : r.dashed.has a = r.has a := rfl
      simp only [hhas]
      split_ifs <;> rfl
  | verbose | help | version => rfl

theorem settle_dashed : r.dashed.settle l = (r.settle l).map dashed := by
  obtain ⟨verbose, values, operand, pending, only⟩ := r
  rcases pending with _ | ⟨a, _ | w⟩ | ⟨o, w⟩
  · rfl
  · rfl
  · exact take_dashed (r := ⟨verbose, values, operand, none, only⟩)
  · change (if w = "" then _ else _) = Except.map dashed (if w = "" then _ else _)
    split <;> rfl

theorem Means.dashed (h : s.Means ps) : s.dashed.Means ps := ⟨h.verbose, h.values, h.operand⟩

theorem readLevel_dashed {texts : List String} (hcommands : l.commands = []) (hspelled : Phrase.AllSpelled ps texts)
    (hps : ∀ p ∈ ps, p.Understood l) (htext : (Phrase.operand text).Understood l)
    (hnodup : ((ps ++ [Phrase.operand text]).map Phrase.name).Nodup) :
    ∃ s, readLevel l (texts ++ ["--", text]) .start = .ok (s, none) ∧ s.Means (ps ++ [.operand text]) := by
  have hnames : (ps.map Phrase.name).Nodup := by
    rw [List.map_append] at hnodup
    exact (List.nodup_append.mp hnodup).1
  obtain ⟨read, s, hread, hrest⟩ := (hasRead_start l).phrases hcommands hspelled hps hnames
  have hsettles : read.dashed.settle l = .ok s.dashed := by
    rw [settle_dashed, hread.settles]
    rfl
  have hdashes : read.readText l "--" = .ok read.dashed := by
    rw [readText, hread.onlyOperands]
    rfl
  cases htext with
  | @operand o _ hoperand hne =>
      obtain ⟨hreads, hnone⟩ :=
        readOperand_eq_ok hsettles hread.means.dashed hoperand (Phrase.name_notMem hnodup)
      have honly : read.dashed.readText l text = read.dashed.readOperand l text := if_pos rfl
      have hpending : s.dashed.pending = none := hread.pending
      refine ⟨_, ?_, hread.means.dashed.operated hnone text⟩
      rw [hrest, readLevel_cons hcommands hdashes, readLevel_cons hcommands (honly.trans hreads), readLevel,
        settle_operand hpending o hne]
      rfl

end Reading

end Scaffold.Command
