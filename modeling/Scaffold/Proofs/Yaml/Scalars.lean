import Mathlib.Data.List.TakeWhile
import Scaffold.Yaml.Plain
import Scaffold.Yaml.Quoted

namespace Scaffold.Yaml

def isPrintable (c : Char) : Bool := ' ' ≤ c && c ≤ '~'

def escapeChar (c : Char) : List Char := if c = '"' || c = '\\' then ['\\', c] else [c]

def escape (text : List Char) : List Char := text.flatMap escapeChar

def isWordChar (c : Char) : Bool := c.isAlphanum || c = '_'

namespace Cursor

variable {c : Cursor} {before after : List Char}

theorem rest_advance (h : c.rest = before ++ after) : (c.advance before.length).rest = after := by
  rw [advance, h, List.drop_left]

theorem advance_advance (m n : Nat) (c : Cursor) : (c.advance m).advance n = c.advance (m + n) := by
  simp only [advance, List.drop_drop, Nat.add_assoc]

end Cursor

theorem Gap.scanFrom_spaces {n fuel : Nat} (hfuel : n < fuel) {x : Char} (hx : isBlank x = false ∧ isBreak x = false)
    {after : List Char} (blanks : List Char) {c : Cursor} (hc : c.rest = List.replicate n ' ' ++ x :: after) :
    scanFrom fuel ⟨blanks, []⟩ c = (⟨List.replicate n ' ' ++ blanks, []⟩, c.advance n) := by
  induction n generalizing fuel blanks c with
  | zero =>
      obtain ⟨fuel, rfl⟩ := Nat.exists_eq_succ_of_ne_zero (Nat.ne_of_gt hfuel)
      rw [scanFrom, hc]
      simp [hx, Cursor.advance]
  | succ n ih =>
      obtain ⟨fuel, rfl⟩ := Nat.exists_eq_succ_of_ne_zero (Nat.ne_of_gt (Nat.zero_lt_of_lt hfuel))
      have hskip : c.skip.rest = List.replicate n ' ' ++ x :: after := by
        rw [Cursor.skip, Cursor.advance, hc]
        rfl
      calc scanFrom (fuel + 1) ⟨blanks, []⟩ c
          = scanFrom fuel ⟨' ' :: blanks, []⟩ c.skip := by
            rw [scanFrom, hc]
            rfl
        _ = (⟨List.replicate n ' ' ++ ' ' :: blanks, []⟩, c.skip.advance n) := ih (by omega) (' ' :: blanks) hskip
        _ = (⟨List.replicate (n + 1) ' ' ++ blanks, []⟩, c.advance (n + 1)) := by
            rw [Cursor.skip, Cursor.advance_advance, Nat.add_comm 1 n, List.replicate_succ', List.append_assoc]
            rfl

theorem Gap.scan_spaces {n : Nat} {x : Char} (hx : isBlank x = false ∧ isBreak x = false) {after : List Char}
    {c : Cursor} (hc : c.rest = List.replicate n ' ' ++ x :: after) :
    scan c = (⟨List.replicate n ' ', []⟩, c.advance n) := by
  have hlength : n < c.rest.length := by simp [hc]
  rw [scan, none, scanFrom_spaces hlength hx [] hc]
  simp

theorem isBreak_of_isPrintable {x : Char} (h : isPrintable x) : isBreak x = false := by
  have hbreaks : ∀ d ∈ ['\n', '\r', '\u0085', '\u2028', '\u2029'], ¬ isPrintable d := List.any_eq_false.mp (by decide)
  have hne {d : Char} (hd : d ∈ ['\n', '\r', '\u0085', '\u2028', '\u2029']) : x ≠ d := by
    rintro rfl
    exact hbreaks x hd h
  simp [isBreak, hne]

theorem plain_of_isPrintable {x : Char} (h : isPrintable x) (hspace : x ≠ ' ') :
    isBlank x = false ∧ isBreak x = false := by
  have htab : x ≠ '\t' := by
    rintro rfl
    exact absurd h (by decide)
  exact ⟨by simp [isBlank, hspace, htab], isBreak_of_isPrintable h⟩

section

variable {since : Mark} {fuel : Nat} {acc rest : List Char} {c : Cursor}

theorem atMarker_eq_false (h : 0 < c.mark.column) : c.atMarker = false := by
  have hcolumn : c.mark.column ≠ 0 := Nat.ne_of_gt h
  simp [Cursor.atMarker, hcolumn]

theorem readQuotedFrom_quote (hc : c.rest = '"' :: rest) (hcolumn : 0 < c.mark.column) :
    readQuotedFrom true since (fuel + 1) acc c = .ok (acc, c.advance 1) := by
  rw [readQuotedFrom, atMarker_eq_false hcolumn, hc]
  rfl

theorem readQuotedFrom_spaces {n : Nat} {x : Char} (hx : isBlank x = false ∧ isBreak x = false)
    (hc : c.rest = List.replicate (n + 1) ' ' ++ x :: rest) (hcolumn : 0 < c.mark.column) :
    readQuotedFrom true since (fuel + 1) acc c =
      readQuotedFrom true since fuel (List.replicate (n + 1) ' ' ++ acc) (c.advance (n + 1)) := by
  have hspace : List.replicate (n + 1) ' ' ++ x :: rest = ' ' :: (List.replicate n ' ' ++ x :: rest) := rfl
  have hscan := Gap.scan_spaces hx hc
  rw [readQuotedFrom, atMarker_eq_false hcolumn, hc, hspace, hscan]
  simp [isBlank, Gap.text]

theorem readQuotedFrom_char {x : Char} (hx : isPrintable x) (hspace : x ≠ ' ')
    (hc : c.rest = escapeChar x ++ rest) (hcolumn : 0 < c.mark.column) :
    readQuotedFrom true since (fuel + 1) acc c =
      readQuotedFrom true since fuel (x :: acc) (c.advance (escapeChar x).length) := by
  have hplain := plain_of_isPrintable hx hspace
  rw [readQuotedFrom, atMarker_eq_false hcolumn]
  by_cases hquote : x = '"'
  · subst hquote
    have hchars : c.rest = '\\' :: '"' :: rest := hc
    rw [hchars]
    have hescape : readEscape since c = .ok ('"', c.advance 2) := by
      rw [readEscape, hchars]
      rfl
    simp [hescape, isBlank, isBreak, escapeChar]
  · by_cases hback : x = '\\'
    · subst hback
      have hchars : c.rest = '\\' :: '\\' :: rest := hc
      rw [hchars]
      have hescape : readEscape since c = .ok ('\\', c.advance 2) := by
        rw [readEscape, hchars]
        rfl
      simp [hescape, isBlank, isBreak, escapeChar]
    · have hself : escapeChar x = [x] := by simp [escapeChar, hquote, hback]
      rw [hc, hself]
      simp [hplain, hquote, hback, Cursor.skip]

theorem exists_spaces (text : List Char) :
    ∃ n after, text = List.replicate n ' ' ++ after ∧ after.head? ≠ some ' ' := by
  refine ⟨(text.takeWhile (· = ' ')).length, text.dropWhile (· = ' '), ?_, ?_⟩
  · have hspaces : text.takeWhile (· = ' ') = List.replicate (text.takeWhile (· = ' ')).length ' ' :=
      List.eq_replicate_of_mem fun c hc => by simpa using List.mem_takeWhile_imp hc
    rw [← hspaces, List.takeWhile_append_dropWhile]
  · intro hhead
    have := List.head?_dropWhile_not (· = ' ') text
    simp [hhead] at this

theorem escape_append (s t : List Char) : escape (s ++ t) = escape s ++ escape t := List.flatMap_append

theorem escape_spaces (n : Nat) : escape (List.replicate n ' ') = List.replicate n ' ' := by
  induction n with
  | zero => rfl
  | succ n ih => exact congrArg (' ' :: ·) ih

/-- What follows blanks is the end of the text or begins with a character that is no blank. -/
theorem exists_escape_append (rest : List Char) {text : List Char} (hprintable : ∀ x ∈ text, isPrintable x)
    (hhead : text.head? ≠ some ' ') :
    ∃ x after, escape text ++ '"' :: rest = x :: after ∧ isBlank x = false ∧ isBreak x = false := by
  cases text with
  | nil => exact ⟨'"', rest, rfl, rfl, rfl⟩
  | cons y text =>
      have hspace : y ≠ ' ' := by simpa using hhead
      have hy := plain_of_isPrintable (hprintable y (.head _)) hspace
      by_cases hescaped : y = '"' ∨ y = '\\'
      · exact ⟨'\\', y :: (escape text ++ '"' :: rest), by simp [escape, escapeChar, hescaped], rfl, rfl⟩
      · exact ⟨y, escape text ++ '"' :: rest, by simp [escape, escapeChar, hescaped], hy⟩

/-- The induction is on the fuel and not on the text, since blanks that follow each other are read at once. -/
theorem readQuotedFrom_escape {text : List Char} (hprintable : ∀ x ∈ text, isPrintable x)
    (hfuel : (escape text).length < fuel) (hc : c.rest = escape text ++ '"' :: rest) (hcolumn : 0 < c.mark.column) :
    readQuotedFrom true since fuel acc c = .ok (text.reverse ++ acc, c.advance ((escape text).length + 1)) := by
  induction fuel generalizing text acc c with
  | zero => omega
  | succ fuel ih =>
      have hnext (n : Nat) : 0 < (c.advance n).mark.column := Nat.add_pos_left hcolumn n
      obtain ⟨n, after, rfl, hhead⟩ := exists_spaces text
      have hafter : ∀ x ∈ after, isPrintable x := fun x hx => hprintable x (List.mem_append_right _ hx)
      rw [escape_append, escape_spaces, List.append_assoc] at hc
      rw [escape_append, escape_spaces, List.length_append, List.length_replicate] at hfuel ⊢
      rcases n with _ | n
      · cases after with
        | nil => exact readQuotedFrom_quote hc hcolumn
        | cons x after =>
            have hspace : x ≠ ' ' := by simpa using hhead
            have hchar : c.rest = escapeChar x ++ (escape after ++ '"' :: rest) := by
              rw [← List.append_assoc]
              exact hc
            have hlength : (escape (x :: after)).length = (escapeChar x).length + (escape after).length := by
              rw [← List.length_append]
              rfl
            have hpos : 0 < (escapeChar x).length := by
              rw [escapeChar]
              split <;> simp
            rw [readQuotedFrom_char (hafter x (.head _)) hspace hchar hcolumn,
              ih (fun y hy => hafter y (.tail _ hy)) (by omega) (Cursor.rest_advance hchar) (hnext _),
              Cursor.advance_advance, hlength]
            simp [Nat.add_assoc]
      · obtain ⟨x, more, hmore, hx⟩ := exists_escape_append rest hafter hhead
        have hspaces : c.rest = List.replicate (n + 1) ' ' ++ x :: more := by rw [hc, hmore]
        have hrest : (c.advance (n + 1)).rest = escape after ++ '"' :: rest := by
          have := Cursor.rest_advance hc
          rwa [List.length_replicate] at this
        rw [readQuotedFrom_spaces hx hspaces hcolumn, ih hafter (by omega) hrest (hnext _), Cursor.advance_advance]
        simp [Nat.add_assoc]

theorem isPrintable_escape {text : List Char} (h : ∀ x ∈ text, isPrintable x) : ∀ x ∈ escape text, isPrintable x := by
  intro x hx
  obtain ⟨y, hy, hx⟩ := List.mem_flatMap.mp hx
  rw [escapeChar] at hx
  split at hx
  · obtain rfl | rfl : x = '\\' ∨ x = y := by simpa using hx
    · rfl
    · exact h x hy
  · obtain rfl := List.mem_singleton.mp hx
    exact h x hy

theorem readQuoted_escape {text : List Char} (hprintable : ∀ x ∈ text, isPrintable x)
    (hc : c.rest = '"' :: (escape text ++ '"' :: rest)) :
    readQuoted true c = .ok (.scalar (String.ofList text) .doubleQuoted, c.advance ((escape text).length + 2)) := by
  have hskip : c.skip.rest = escape text ++ '"' :: rest := by
    rw [Cursor.skip, Cursor.advance, hc]
    rfl
  have hlength : (escape text).length < c.rest.length + 1 := by
    simp [hc]
    omega
  have hadvance : c.skip.advance ((escape text).length + 1) = c.advance ((escape text).length + 2) := by
    rw [Cursor.skip, Cursor.advance_advance, Nat.add_comm 1]
  rw [readQuoted, readQuotedFrom_escape hprintable hlength hskip (Nat.succ_pos _), hadvance]
  simp [bind, Except.bind, pure, Except.pure]

end

section

variable {word after : List Char} {indent : Nat} {c : Cursor}

theorem ne_of_isWordChar {x d : Char} (hx : isWordChar x) (hd : ¬ isWordChar d) : x ≠ d := by
  rintro rfl
  exact hd hx

theorem isBlank_of_isWordChar {x : Char} (hx : isWordChar x) : isBlank x = false := by
  simp [isBlank, ne_of_isWordChar hx (d := ' ') (by decide), ne_of_isWordChar hx (d := '\t') (by decide)]

theorem isPrintable_of_isWordChar {x : Char} (hx : isWordChar x) : isPrintable x := by
  have hrange {a b : Char} (ha : a ≤ x) (hb : x ≤ b) (h : ' ' ≤ a ∧ b ≤ '~') : isPrintable x := by
    simp only [isPrintable, Bool.and_eq_true, decide_eq_true_eq]
    exact ⟨Char.le_trans h.1 ha, Char.le_trans hb h.2⟩
  simp only [isWordChar, Char.isAlphanum, Bool.or_eq_true, decide_eq_true_eq] at hx
  rcases hx with (hletter | hdigit) | rfl
  · rcases Bool.or_eq_true_iff.mp hletter with hupper | hlower
    · have hletters : 'A' ≤ x ∧ x ≤ 'Z' := of_decide_eq_true hupper
      exact hrange hletters.1 hletters.2 (by decide)
    · have hletters := Bool.and_eq_true_iff.mp hlower
      exact hrange (of_decide_eq_true hletters.1) (b := 'z') (of_decide_eq_true hletters.2) (by decide)
  · have hdigits := Bool.and_eq_true_iff.mp hdigit
    exact hrange (of_decide_eq_true hdigits.1) (b := '9') (of_decide_eq_true hdigits.2) (by decide)
  · decide

theorem isBreak_of_isWordChar {x : Char} (hx : isWordChar x) : isBreak x = false :=
  isBreak_of_isPrintable (isPrintable_of_isWordChar hx)

theorem toString_word (n : Nat) : (toString n).toList ≠ [] ∧ ∀ x ∈ (toString n).toList, isWordChar x := by
  rw [Nat.toString_eq_ofList_toDigits, String.toList_ofList]
  refine ⟨Nat.toDigits_ne_nil, fun x hx => ?_⟩
  have hdigit := Nat.isDigit_of_mem_toDigits (by decide) (by decide) hx
  simp [isWordChar, Char.isAlphanum, hdigit]

theorem plainWord_append (hword : ∀ x ∈ word, isWordChar x) (hafter : plainWord false after = .ok []) :
    plainWord false (word ++ after) = .ok word := by
  induction word with
  | nil => exact hafter
  | cons x word ih =>
      have hx := hword x (.head _)
      have hcolon := ne_of_isWordChar hx (d := ':') (by decide)
      rw [List.cons_append, plainWord, ih fun y hy => hword y (.tail _ hy)]
      simp [isBlank_of_isWordChar hx, isBreak_of_isWordChar hx, hcolon]

theorem marker_of_ne {symbol x : Char} (h : x ≠ symbol) (more : List Char) : marker symbol (x :: more) = false := by
  rcases more with _ | ⟨y, _ | ⟨z, more⟩⟩ <;> simp [marker, h]

theorem atMarker_of_isWordChar {x : Char} {more : List Char} (hx : isWordChar x) (hc : c.rest = x :: more) :
    c.atMarker = false := by
  have hdash := marker_of_ne (ne_of_isWordChar hx (d := '-') (by decide)) more
  have hdot := marker_of_ne (ne_of_isWordChar hx (d := '.') (by decide)) more
  simp [Cursor.atMarker, hc, hdash, hdot]

theorem plainWord_rest (hne : word ≠ []) (hword : ∀ x ∈ word, isWordChar x) (hc : c.rest = word ++ after)
    (hafter : plainWord false after = .ok []) :
    (c.atMarker || beginsWith '#' c.rest) = false ∧ plainWord false c.rest = .ok word := by
  obtain ⟨x, more, rfl⟩ := List.exists_cons_of_ne_nil hne
  have hx := hword x (.head _)
  have hhash := ne_of_isWordChar hx (d := '#') (by decide)
  have hbegins : beginsWith '#' c.rest = false := by simp [beginsWith, hc, hhash]
  exact ⟨by rw [atMarker_of_isWordChar hx hc, hbegins]; rfl, hc ▸ plainWord_append hword hafter⟩

theorem readPlain_closed (hne : word ≠ []) (hword : ∀ x ∈ word, isWordChar x) (hc : c.rest = word ++ after)
    (hafter : plainWord false after = .ok []) (hclosed : after.head?.all fun x => !isBlank x && !isBreak x) :
    readPlain false indent c =
      .ok ⟨word.reverse, (c.advance word.length).mark, false, c.advance word.length⟩ := by
  obtain ⟨hguard, hplain⟩ := plainWord_rest hne hword hc hafter
  obtain ⟨x, more, rfl⟩ := List.exists_cons_of_ne_nil hne
  rw [readPlain, readPlainFrom, hguard, hplain]
  simp only [Cursor.rest_advance hc, Bool.false_eq_true, if_false]
  cases after with
  | nil => simp [Gap.text, Gap.none]
  | cons y after =>
      have hy : isBlank y = false ∧ isBreak y = false := by simpa using hclosed
      simp [Gap.text, Gap.none, hy]

theorem Cursor.rest_skipBreak (hc : c.rest = '\n' :: after) : c.skipBreak.rest = after := by
  rw [skipBreak, hc]
  rfl

theorem misplacedTab?_break (hc : c.rest = '\n' :: after) (hafter : after.head?.all isWordChar) :
    misplacedTab? indent c.rest.length false c = none := by
  have hnext := Cursor.rest_skipBreak hc
  have hbreak : misplacedTab? indent c.rest.length false c = misplacedTab? indent after.length true c.skipBreak := by
    rw [hc, List.length_cons, misplacedTab?, hc]
    rfl
  rw [hbreak]
  cases after with
  | nil => rfl
  | cons x after =>
      have hx : isWordChar x := by simpa using hafter
      rw [List.length_cons, misplacedTab?, hnext]
      simp [isBlank_of_isWordChar hx, isBreak_of_isWordChar hx, ne_of_isWordChar hx (d := '\t') (by decide)]

theorem Gap.scan_break (hc : c.rest = '\n' :: after) (hafter : after.head?.all isWordChar) :
    scan c = (⟨[], [['\n']]⟩, c.skipBreak) := by
  have hnext := Cursor.rest_skipBreak hc
  have hbreak : scanFrom c.rest.length none c = scanFrom after.length ⟨[], [['\n']]⟩ c.skipBreak := by
    have htext : c.breakText = ['\n'] := by
      rw [Cursor.breakText, hc]
      rfl
    rw [hc, List.length_cons, scanFrom, hc, htext]
    rfl
  have hstop : scanFrom after.length ⟨[], [['\n']]⟩ c.skipBreak = (⟨[], [['\n']]⟩, c.skipBreak) := by
    cases after with
    | nil => rfl
    | cons x after =>
        have hx : isWordChar x := by simpa using hafter
        rw [List.length_cons, scanFrom, hnext]
        simp [isBlank_of_isWordChar hx, isBreak_of_isWordChar hx]
  rw [scan, hbreak, hstop]
  rfl

/-- A line that is not indented ends a plain scalar before it. -/
theorem readPlain_break (hne : word ≠ []) (hword : ∀ x ∈ word, isWordChar x) (hc : c.rest = word ++ '\n' :: after)
    (hafter : after.head?.all isWordChar) (hindent : 0 < indent) :
    readPlain false indent c =
      .ok ⟨word.reverse, (c.advance word.length).mark, true, (c.advance word.length).skipBreak⟩ := by
  obtain ⟨hguard, hplain⟩ := plainWord_rest hne hword hc rfl
  obtain ⟨x, more, rfl⟩ := List.exists_cons_of_ne_nil hne
  have hrest := Cursor.rest_advance hc
  have htab : misplacedTab? indent _ false _ = none := misplacedTab?_break hrest hafter
  have hscan := Gap.scan_break hrest hafter
  rw [hrest] at htab
  rw [readPlain, readPlainFrom, hguard, hplain]
  simp only [hrest, htab, hscan, Bool.false_eq_true, if_false]
  simp [Gap.text, Gap.none, Gap.isBroken, isBlank, isBreak, Cursor.skipBreak, hindent]

end

end Scaffold.Yaml
