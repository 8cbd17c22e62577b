import Scaffold.Proofs.Text.Joining
import Scaffold.Proofs.Yaml.Fetching

namespace Scaffold.Yaml

inductive Inline where
  | quoted (text : String)
  | natural (n : Nat)
  deriving DecidableEq, Repr

namespace Inline

def text : Inline → String
  | quoted text => "\"" ++ String.ofList (escape text.toList) ++ "\""
  | natural n => toString n

def lexeme : Inline → Lexeme
  | quoted text => .scalar text .doubleQuoted
  | natural n => .scalar (toString n) .plain

def IsPrintable : Inline → Prop
  | quoted text => ∀ x ∈ text.toList, isPrintable x
  | natural _ => True

end Inline

structure Entry where
  key : String
  value : Inline
  deriving DecidableEq, Repr

namespace Entry

def line (e : Entry) : String := e.key ++ ": " ++ e.value.text

structure Regular (e : Entry) : Prop where
  key_ne : e.key ≠ ""
  key_word : ∀ x ∈ e.key.toList, isWordChar x
  key_length : e.key.toList.length ≤ keyLimit
  value : e.value.IsPrintable

def lexemes (e : Entry) : List Lexeme := [.key, .scalar e.key .plain, .value, e.value.lexeme]

end Entry

/-- A mapping with each entry on its own line. The last line need not be ended. -/
def mappingText (es : List Entry) (ending : String) : String := Text.joinWith "\n" (es.map Entry.line) ++ ending

variable {es : List Entry} {ending : String}

theorem toList_mappingText_singleton (e : Entry) (ending : String) :
    (mappingText [e] ending).toList = e.line.toList ++ ending.toList := by
  rw [mappingText, List.map_singleton, Text.joinWith, String.toList_append]

theorem toList_mappingText_cons (e : Entry) (hne : es ≠ []) (ending : String) :
    (mappingText (e :: es) ending).toList = e.line.toList ++ '\n' :: (mappingText es ending).toList := by
  rw [mappingText, List.map_cons, Text.joinWith_cons _ _ (by simpa using hne), mappingText]
  simp

theorem Inline.isPrintable_text {value : Inline} (h : value.IsPrintable) : ∀ x ∈ value.text.toList, isPrintable x := by
  cases value with
  | quoted text =>
      have hquote : ∀ x ∈ "\"".toList, isPrintable x := List.all_eq_true.mp (by decide)
      intro x hx
      simp only [Inline.text, String.toList_append, List.mem_append, String.toList_ofList] at hx
      obtain (hx | hx) | hx := hx
      · exact hquote x hx
      · exact isPrintable_escape h x hx
      · exact hquote x hx
  | natural n => exact fun x hx => isPrintable_of_isWordChar ((toString_word n).2 x hx)

theorem Entry.isPrintable_line {e : Entry} (he : e.Regular) : ∀ x ∈ e.line.toList, isPrintable x := by
  have hcolon : ∀ x ∈ ": ".toList, isPrintable x := List.all_eq_true.mp (by decide)
  intro x hx
  simp only [Entry.line, String.toList_append, List.mem_append] at hx
  obtain (hx | hx) | hx := hx
  · exact isPrintable_of_isWordChar (he.key_word x hx)
  · exact hcolon x hx
  · exact Inline.isPrintable_text he.value x hx

theorem controlOffset?_eq_none {text : List Char} (h : ∀ x ∈ text, x = '\n' ∨ isPrintable x) (offset : Nat) :
    controlOffset? offset text = none := by
  induction text generalizing offset with
  | nil => rfl
  | cons x text ih =>
      have hx : isAllowed x := by
        obtain rfl | hx := h x (.head _)
        · rfl
        · simp only [isPrintable, Bool.and_eq_true, decide_eq_true_eq] at hx
          simp [isAllowed, hx]
      rw [controlOffset?, if_pos hx]
      exact ih (fun y hy => h y (.tail _ hy)) _

theorem isPrintable_mappingText (hes : ∀ e ∈ es, e.Regular) (hending : ending = "" ∨ ending = "\n") :
    ∀ x ∈ (mappingText es ending).toList, x = '\n' ∨ isPrintable x := by
  intro x hx
  rw [mappingText, String.toList_append, List.mem_append] at hx
  obtain hx | hx := hx
  · obtain hx | ⟨l, hl, hx⟩ := Text.mem_toList_joinWith hx
    · exact .inl (by simpa using hx)
    · obtain ⟨e, he, rfl⟩ := List.mem_map.mp hl
      exact .inr (Entry.isPrintable_line (hes e he) x hx)
  · obtain rfl | rfl := hending
    · cases hx
    · exact .inl (by simpa using hx)

theorem three_mul_length_le (es : List Entry) (ending : String) :
    3 * es.length ≤ (mappingText es ending).toList.length + 1 := by
  have hline (e : Entry) : 2 ≤ e.line.toList.length := by
    simp only [Entry.line, String.toList_append, List.length_append]
    exact Nat.le_add_right_of_le (Nat.le_add_left 2 _)
  induction es with
  | nil => exact Nat.zero_le _
  | cons e es ih =>
      have he := hline e
      by_cases hrest : es = []
      · subst hrest
        rw [toList_mappingText_singleton, List.length_append, List.length_singleton]
        omega
      · rw [toList_mappingText_cons e hrest, List.length_append, List.length_cons, List.length_cons]
        omega

theorem head?_mappingText (hne : es ≠ []) (hes : ∀ e ∈ es, e.Regular) (ending : String) :
    (mappingText es ending).toList.head?.all isWordChar := by
  obtain ⟨e, es, rfl⟩ := List.exists_cons_of_ne_nil hne
  have he := hes e (.head _)
  obtain ⟨x, key, hkey⟩ := List.exists_cons_of_ne_nil (show e.key.toList ≠ [] by simpa using he.key_ne)
  have hx : isWordChar x := he.key_word x (hkey ▸ .head _)
  obtain ⟨after, hline⟩ : ∃ after, e.line.toList = x :: after :=
    ⟨_, by rw [Entry.line, String.append_assoc, String.toList_append, hkey]; rfl⟩
  by_cases hrest : es = []
  · subst hrest
    rw [toList_mappingText_singleton, hline]
    exact hx
  · rw [toList_mappingText_cons e hrest, hline]
    exact hx

namespace Scanner

variable {c : Cursor} {s : Scanner} {ts : List Token} {bs : List Nat} {after next : List Char} {fuel : Nat}

def spelled (ts : List Token) : List Lexeme := ts.reverse.map Token.lexeme

theorem spelled_cons (t : Token) (ts : List Token) : spelled (t :: ts) = spelled ts ++ [t.lexeme] := by
  simp [spelled]

/-- A scanner before a line that is not indented, or before the end of the text, maybe with a gap before it. -/
structure Before (s : Scanner) (ts : List Token) (bs : List Nat) (text : List Char) : Prop where
  notDone : s.isDone = false
  skipped : ∃ c allowed, s.skipGap = ⟨c, ts, bs, none, [], allowed⟩ ∧ c.rest = text ∧
    (text ≠ [] → c.mark.column = 0 ∧ allowed = true)

def IsLineEnd (after next : List Char) : Prop :=
  (after = [] ∧ next = []) ∨ (after = '\n' :: next ∧ next.head?.all isWordChar)

theorem Before.of_lineEnd {t : Token} (ht : t.lexeme ≠ .streamEnd) (hend : IsLineEnd after next) (hc : c.rest = after) :
    Before ⟨c, t :: ts, [0], none, [], false⟩ (t :: ts) [0] next := by
  refine ⟨by simp [isDone, ht], ?_⟩
  obtain ⟨rfl, rfl⟩ | ⟨rfl, hnext⟩ := hend
  · refine ⟨c, false, skipGap_solid ?_, hc, fun h => absurd rfl h⟩
    rw [rest, hc]
    rfl
  · exact ⟨c.skipBreak, true, skipGap_break hc (all_isSolid hnext) rfl, Cursor.rest_skipBreak hc, fun _ => ⟨rfl, rfl⟩⟩

theorem Before.of_line {t : Token} (ht : t.lexeme ≠ .streamEnd) (hc : c.rest = next) (hnext : next.head?.all isWordChar)
    (hcolumn : c.mark.column = 0) : Before ⟨c, t :: ts, [0], none, [], true⟩ (t :: ts) [0] next := by
  have hsolid : c.rest.head?.all isSolid := hc ▸ all_isSolid hnext
  exact ⟨by simp [isDone, ht], c, true, skipGap_solid hsolid, hc, fun _ => ⟨hcolumn, rfl⟩⟩

theorem exists_fetch_value {value : Inline} (hvalue : value.IsPrintable)
    (hc : c.rest = ' ' :: (value.text.toList ++ after)) (hend : IsLineEnd after next) :
    ∃ s' t, t.lexeme = value.lexeme ∧ fetch ⟨c, ts, [0], none, [], false⟩ = .ok s' ∧ Before s' (t :: ts) [0] next := by
  cases value with
  | quoted text =>
      have hquoted : c.rest = ' ' :: '"' :: (escape text.toList ++ '"' :: after) := by
        rw [hc]
        simp [Inline.text]
      obtain ⟨c', t, ht, hc', hfetch⟩ := fetch_quoted ts hvalue hquoted
      rw [String.ofList_toList] at ht
      exact ⟨_, t, ht, hfetch, .of_lineEnd (by simp [ht]) hend hc'⟩
  | natural n =>
      obtain ⟨hne, hword⟩ := toString_word n
      have hrest : (c.advance 1).rest = (toString n).toList ++ after :=
        Cursor.rest_advance (show c.rest = [' '] ++ _ from hc)
      have hstop := Cursor.rest_advance hrest
      have htext : String.ofList (toString n).toList.reverse.reverse = toString n := by
        rw [List.reverse_reverse, String.ofList_toList]
      obtain ⟨rfl, rfl⟩ | ⟨rfl, hnext⟩ := hend
      · have hread : readPlain false 1 _ = _ := readPlain_closed hne hword hrest rfl rfl
        have hfetch := fetch_word ts hne hword hc hread
        rw [htext] at hfetch
        exact ⟨_, _, rfl, hfetch, .of_lineEnd (by simp) (.inl ⟨rfl, rfl⟩) hstop⟩
      · have hread : readPlain false 1 _ = _ := readPlain_break hne hword hrest hnext Nat.one_pos
        have hfetch := fetch_word ts hne hword hc hread
        rw [htext] at hfetch
        exact ⟨_, _, rfl, hfetch, .of_line (by simp) (Cursor.rest_skipBreak hstop) hnext rfl⟩

theorem run_fetch {t : Scanner} (hdone : s.isDone = false) (hfetch : s.fetch = .ok t) : run (fuel + 1) s = run fuel t := by
  rw [run, hdone, hfetch]
  rfl

theorem run_entry {e : Entry} (he : e.Regular) (hbs : IsOpen bs) (hend : IsLineEnd after next)
    (hs : Before s ts bs (e.line.toList ++ after)) :
    ∃ s' ts', (∀ fuel, run (fuel + 3) s = run fuel s') ∧ Before s' ts' [0] next ∧
      spelled ts' = spelled ts ++ ((opening bs .start).map Token.lexeme ++ e.lexemes) := by
  obtain ⟨hdone, c, allowed, hskip, hc, hline⟩ := hs
  have hkey : e.key.toList ≠ [] := by simpa using he.key_ne
  have hchars : c.rest = e.key.toList ++ ':' :: ' ' :: (e.value.text.toList ++ after) := by
    rw [hc, Entry.line]
    simp
  obtain ⟨hcolumn, rfl⟩ := hline (by simp [Entry.line, hkey])
  obtain ⟨required, hfetch⟩ := fetch_key hskip hbs hkey he.key_word he.key_length hchars
  have hcolon : (c.advance e.key.toList.length).rest = ':' :: ' ' :: (e.value.text.toList ++ after) :=
    Cursor.rest_advance hchars
  have hstale : isStale (c.advance e.key.toList.length).mark ⟨ts.length, c.mark, required⟩ = false := by
    simp [isStale, Cursor.advance, he.key_length]
  have hfetch' (t : Token) := fetch_colon t hbs hcolumn hstale hcolon
  have hvalue : ((c.advance e.key.toList.length).advance 1).rest = ' ' :: (e.value.text.toList ++ after) :=
    Cursor.rest_advance (show _ = [':'] ++ _ from hcolon)
  obtain ⟨s', t, ht, hfetch'', hbefore⟩ := exists_fetch_value he.value hvalue hend
  refine ⟨s', _, ?_, hbefore, ?_⟩
  · intro fuel
    rw [run_fetch hdone hfetch, run_fetch rfl (hfetch' _), run_fetch rfl hfetch'']
  · have hopening : (opening bs c.mark).reverse.map Token.lexeme = (opening bs .start).map Token.lexeme := by
      rw [opening, opening]
      split <;> rfl
    simp only [spelled, List.reverse_cons, List.reverse_append, List.map_append, hopening, ht, Entry.lexemes,
      String.ofList_toList, List.append_assoc, List.map_cons, List.map_nil, List.cons_append, List.nil_append]

/-- The mapping is closed at the end of the text. -/
theorem run_end (hs : Before s ts [0] []) :
    ∃ ts', run (fuel + 1) s = (ts'.reverse, none) ∧ spelled ts' = spelled ts ++ [.blockEnd, .streamEnd] := by
  obtain ⟨hdone, c, allowed, hskip, hc, -⟩ := hs
  have hclose : closeBlocks (some c.mark.column) ⟨c, ts, [0], none, [], allowed⟩ = ⟨c, ts, [0], none, [], allowed⟩ :=
    closeBlocks_of_le (by simp)
  have hfetch : ∃ s' m, s.fetch = .ok s' ∧ s'.tokens = ⟨.streamEnd, m, m⟩ :: ⟨.blockEnd, m, m⟩ :: ts := by
    rw [fetch, hskip, refreshKeys_clear]
    simp only [bind, Except.bind, mark, hclose, rest, hc]
    rw [fetchEnd]
    split <;> exact ⟨_, _, rfl, rfl⟩
  obtain ⟨s', m, hfetch, htokens⟩ := hfetch
  refine ⟨s'.tokens, ?_, by simp [htokens, spelled_cons]⟩
  rw [run_fetch hdone hfetch]
  cases fuel with
  | zero => rfl
  | succ fuel =>
      have hdone' : s'.isDone = true := by simp [isDone, htokens]
      rw [run, hdone']
      rfl

theorem run_entries {es : List Entry} (hne : es ≠ []) (hes : ∀ e ∈ es, e.Regular) {ending : String}
    (hending : ending = "" ∨ ending = "\n") (hbs : IsOpen bs)
    (hs : Before s ts bs (mappingText es ending).toList) :
    ∃ ts', run (fuel + (3 * es.length + 1)) s = (ts'.reverse, none) ∧
      spelled ts' = spelled ts ++ ((opening bs .start).map Token.lexeme ++ es.flatMap Entry.lexemes) ++
        [.blockEnd, .streamEnd] := by
  induction es generalizing s ts bs with
  | nil => exact absurd rfl hne
  | cons e es ih =>
      have he := hes e (.head _)
      have hfuel : fuel + (3 * (e :: es).length + 1) = fuel + (3 * es.length + 1) + 3 := by
        rw [List.length_cons]
        omega
      rw [hfuel]
      by_cases hrest : es = []
      · subst hrest
        have hend : IsLineEnd ending.toList [] := by
          obtain rfl | rfl := hending
          · exact .inl ⟨rfl, rfl⟩
          · exact .inr ⟨rfl, rfl⟩
        rw [toList_mappingText_singleton] at hs
        obtain ⟨s', ts', hrun, hbefore, hspelled⟩ := run_entry he hbs hend hs
        obtain ⟨ts'', hrun', hspelled'⟩ := run_end hbefore
        refine ⟨ts'', (hrun _).trans hrun', ?_⟩
        rw [hspelled', hspelled]
        simp
      · have hes' : ∀ e' ∈ es, e'.Regular := fun e' he' => hes e' (.tail _ he')
        have hend : IsLineEnd ('\n' :: (mappingText es ending).toList) (mappingText es ending).toList :=
          .inr ⟨rfl, head?_mappingText hrest hes' ending⟩
        rw [toList_mappingText_cons e hrest] at hs
        obtain ⟨s', ts', hrun, hbefore, hspelled⟩ := run_entry he hbs hend hs
        obtain ⟨ts'', hrun', hspelled'⟩ := ih hrest hes' (.inr rfl) hbefore
        refine ⟨ts'', (hrun _).trans hrun', ?_⟩
        rw [hspelled', hspelled]
        simp [opening]

end Scanner

theorem tokens_mappingText (hne : es ≠ []) (hes : ∀ e ∈ es, e.Regular) (hending : ending = "" ∨ ending = "\n") :
    ∃ ts, tokens (mappingText es ending) = (ts, none) ∧
      ts.map Token.lexeme = .blockMappingStart :: (es.flatMap Entry.lexemes ++ [.blockEnd, .streamEnd]) := by
  have hsolid := Scanner.all_isSolid (head?_mappingText hne hes ending)
  have hbom : beginsWith '\ufeff' (mappingText es ending).toList = false := (Scanner.signs_of_solid hsolid).1
  have hbefore : Scanner.Before (.initial ⟨(mappingText es ending).toList, .start⟩) [] [] (mappingText es ending).toList :=
    ⟨rfl, _, true, Scanner.skipGap_solid hsolid, rfl, fun _ => ⟨rfl, rfl⟩⟩
  obtain ⟨fuel, hfuel⟩ : ∃ fuel, (mappingText es ending).toList.length + 2 = fuel + (3 * es.length + 1) := by
    have hlength := three_mul_length_le es ending
    exact ⟨(mappingText es ending).toList.length + 2 - (3 * es.length + 1), by omega⟩
  obtain ⟨ts, hrun, hspelled⟩ := Scanner.run_entries hne hes hending (.inl rfl) hbefore
  refine ⟨ts.reverse, ?_, ?_⟩
  · rw [tokens, controlOffset?_eq_none (isPrintable_mappingText hes hending)]
    simp only [hbom, Bool.false_eq_true, if_false]
    rw [hfuel, hrun]
  · rw [← Scanner.spelled, hspelled]
    rfl

end Scaffold.Yaml
