import Scaffold.Proofs.Yaml.Scalars
import Scaffold.Yaml.Scanner

namespace Scaffold.Yaml.Scanner

variable {c : Cursor} {ts : List Token} {bs : List Nat} {k : KeyCandidate} {allowed : Bool} {s : Scanner}
  {x : Char} {text : List Char}

theorem refreshKeys_clear : refreshKeys ⟨c, ts, bs, none, [], allowed⟩ = .ok ⟨c, ts, bs, none, [], allowed⟩ := by
  rfl

theorem refreshKeys_candidate (h : isStale c.mark k = false) :
    refreshKeys ⟨c, ts, bs, some k, [], allowed⟩ = .ok ⟨c, ts, bs, some k, [], allowed⟩ := by
  have hrefresh : refresh c.mark (some k) = .ok (some k) := by simp [refresh, h]
  have h : refreshKeys ⟨c, ts, bs, some k, [], allowed⟩ = (refresh c.mark (some k)).bind fun candidate =>
    .ok ⟨c, ts, bs, candidate, [], allowed⟩ := rfl
  rw [h, hrefresh]
  rfl

theorem closeBlocks_of_le {n : Nat} (h : ∀ b ∈ s.blocks, b ≤ n) : s.closeBlocks (some n) = s := by
  rw [closeBlocks]
  split
  · rfl
  · have hnone : s.blocks.takeWhile (fun b => (some n).all (· < b)) = [] := by
      rw [List.takeWhile_eq_nil_iff]
      intro hlength
      have := h _ (List.getElem_mem hlength)
      simpa using this
    rw [hnone]
    rfl

theorem isIndicator_of_isWordChar (hx : isWordChar x) : isIndicator x = false := by
  have hsigns : ∀ d ∈ "-?:,[]#&*!|>'\"%@".toList, ¬ isWordChar d := List.any_eq_false.mp (by decide)
  have hmem : x ∉ "-?:,[]#&*!|>'\"%@".toList := fun h => hsigns x h hx
  have hopen := ne_of_isWordChar hx (d := '\x7b') (by decide)
  have hclose := ne_of_isWordChar hx (d := '\x7d') (by decide)
  have htick : x.toNat ≠ 96 := by
    intro h
    have hchar : x = Char.ofNat 96 := by rw [← h, Char.ofNat_toNat]
    exact ne_of_isWordChar hx (by decide) hchar
  rw [isIndicator, String.contains_char_eq, decide_eq_false hmem]
  simp [hopen, hclose, htick]

theorem fetchAt_word (hx : isWordChar x) : s.fetchAt x text = s.fetchPlain := by
  have hsigns : ∀ d ∈ ['%', '-', '.', '[', '\x7b', ']', '\x7d', ',', '?', ':', '*', '&', '!', '|', '>', '\'', '"'],
      x ≠ d := fun d hd => ne_of_isWordChar hx (List.any_eq_false.mp (by decide) d hd)
  have hbegins : beginsPlain s.inFlow x text = true := by
    simp [beginsPlain, isBlank_of_isWordChar hx, isBreak_of_isWordChar hx, isIndicator_of_isWordChar hx]
  simp only [List.forall_mem_cons] at hsigns
  simp [fetchAt, hsigns, marker_of_ne, hbegins]

theorem fetchAt_colon : s.fetchAt ':' (' ' :: text) = s.fetchValue := by
  have hdash : ':' ≠ '-' := by decide
  have hdot : ':' ≠ '.' := by decide
  simp [fetchAt, marker_of_ne, endsWord, isBlank]

theorem fetchAt_quote : s.fetchAt '"' text = s.fetchWith (readQuoted true) := by
  simp [fetchAt, marker_of_ne]

def isSolid (x : Char) : Bool := !isBlank x && !isBreak x && x ≠ '#' && x ≠ '\ufeff'

theorem isSolid_of_isWordChar (hx : isWordChar x) : isSolid x := by
  simp [isSolid, isBlank_of_isWordChar hx, isBreak_of_isWordChar hx, ne_of_isWordChar hx (d := '#') (by decide),
    ne_of_isWordChar hx (d := '\ufeff') (by decide)]

/-- One round, if there are some blanks before something that is neither a blank nor a comment. -/
theorem skipGapFrom_succ {fuel n : Nat} (hbom : beginsWith '\ufeff' s.rest = false)
    (hblanks : (s.rest.takeWhile fun x => x = ' ' || ((s.inFlow || !s.keyAllowed) && x = '\t')).length = n)
    (hrest : (s.cursor.advance n).rest = text) (hcomment : beginsWith '#' text = false) :
    skipGapFrom (fuel + 1) s =
      if text.head?.any isBreak then
        skipGapFrom fuel { s with cursor := (s.cursor.advance n).skipBreak, keyAllowed := s.keyAllowed || !s.inFlow }
      else { s with cursor := s.cursor.advance n } := by
  have hskip : (s.cursor.skipWhile fun x => x = ' ' || ((s.inFlow || !s.keyAllowed) && x = '\t')) = s.cursor.advance n := by
    rw [Cursor.skipWhile]
    exact congrArg s.cursor.advance hblanks
  have hnone : (s.cursor.advance n).skipComment = s.cursor.advance n := by
    rw [Cursor.skipComment, hrest, hcomment]
    rfl
  rw [skipGapFrom, hbom, Bool.and_false]
  simp only [Bool.false_eq_true, if_false]
  rw [hskip, hnone, hrest]
  cases text with
  | nil => rfl
  | cons x text => rfl

theorem takeWhile_blanks (h : text.head?.all isSolid) (tabs : Bool) :
    text.takeWhile (fun x => x = ' ' || (tabs && x = '\t')) = [] := by
  cases text with
  | nil => rfl
  | cons x text =>
      have hx : isSolid x := by simpa using h
      simp only [isSolid, isBlank, Bool.and_eq_true, Bool.not_eq_true', Bool.or_eq_false_iff, decide_eq_false_iff_not] at hx
      rw [List.takeWhile_cons_of_neg (by simp [hx])]

theorem signs_of_solid (h : text.head?.all isSolid) :
    beginsWith '\ufeff' text = false ∧ beginsWith '#' text = false ∧ text.head?.any isBreak = false := by
  cases text with
  | nil => exact ⟨rfl, rfl, rfl⟩
  | cons x text =>
      have hx : isSolid x := by simpa using h
      simp only [isSolid, Bool.and_eq_true, Bool.not_eq_true', decide_eq_true_eq] at hx
      simp [beginsWith, hx]

theorem skipGapFrom_solid (fuel : Nat) (h : s.rest.head?.all isSolid) : skipGapFrom fuel s = s := by
  obtain ⟨hbom, hcomment, hbreak⟩ := signs_of_solid h
  cases fuel with
  | zero => rfl
  | succ fuel =>
      have hhere : (s.cursor.advance 0).rest = s.rest := rfl
      rw [skipGapFrom_succ hbom (by rw [takeWhile_blanks h]; rfl) hhere hcomment, hbreak]
      rfl

theorem skipGap_solid (h : s.rest.head?.all isSolid) : s.skipGap = s := skipGapFrom_solid _ h

theorem skipGap_space (hrest : s.rest = ' ' :: text) (h : text.head?.all isSolid) :
    s.skipGap = { s with cursor := s.cursor.advance 1 } := by
  obtain ⟨-, hcomment, hbreak⟩ := signs_of_solid h
  have hnext : (s.cursor.advance [' '].length).rest = text := Cursor.rest_advance hrest
  rw [skipGap, skipGapFrom_succ (by rw [hrest]; rfl) ?_ hnext hcomment, hbreak]
  · rfl
  · rw [hrest, List.takeWhile_cons_of_pos (by rfl), takeWhile_blanks h]

theorem skipGap_break (hrest : s.rest = '\n' :: text) (h : text.head?.all isSolid) (houter : s.outer = []) :
    s.skipGap = { s with cursor := s.cursor.skipBreak, keyAllowed := true } := by
  have hflow : s.inFlow = false := by rw [inFlow, houter]; rfl
  have hhere : (s.cursor.advance [].length).rest = '\n' :: text := Cursor.rest_advance hrest
  have hnext : s.cursor.skipBreak.rest = text := Cursor.rest_skipBreak hrest
  rw [skipGap, skipGapFrom_succ (by rw [hrest]; rfl) ?_ hhere rfl]
  · rw [hflow, Bool.not_false, Bool.or_true]
    exact skipGapFrom_solid _ (by rw [rest]; exact hnext ▸ h)
  · rw [hrest]
    simp

theorem all_isSolid (h : text.head?.all isWordChar) : text.head?.all isSolid := by
  cases text with
  | nil => rfl
  | cons x text => exact isSolid_of_isWordChar (by simpa using h)

theorem fetch_eq {t next : Scanner} (hskip : s.skipGap = t) (hrest : t.rest = x :: text) (hkeys : t.refreshKeys = .ok t)
    (hblocks : ∀ b ∈ t.blocks, b ≤ t.mark.column) (hfetch : t.fetchAt x text = .ok next)
    (hnext : next.refreshKeys = .ok next) : s.fetch = .ok next := by
  rw [fetch, hskip, hkeys]
  simp only [bind, Except.bind, closeBlocks_of_le hblocks, hrest, hfetch, hnext]

def IsOpen (bs : List Nat) : Prop := bs = [] ∨ bs = [0]

theorem IsOpen.le (h : IsOpen bs) (n : Nat) : ∀ b ∈ bs, b ≤ n := by
  obtain rfl | rfl := h <;> simp

theorem fetch_key (hskip : s.skipGap = ⟨c, ts, bs, none, [], true⟩) (hbs : IsOpen bs) {key rest : List Char}
    (hne : key ≠ []) (hkey : ∀ y ∈ key, isWordChar y) (hlength : key.length ≤ keyLimit)
    (hc : c.rest = key ++ ':' :: ' ' :: rest) :
    ∃ required, s.fetch = .ok ⟨c.advance key.length,
      ⟨.scalar (String.ofList key) .plain, c.mark, (c.advance key.length).mark⟩ :: ts, bs,
      some ⟨ts.length, c.mark, required⟩, [], false⟩ := by
  have hplain (indent : Nat) : readPlain false indent c =
      .ok ⟨key.reverse, (c.advance key.length).mark, false, c.advance key.length⟩ :=
    readPlain_closed hne hkey hc rfl rfl
  have hstale (required : Bool) : isStale (c.advance key.length).mark ⟨ts.length, c.mark, required⟩ = false := by
    simp [isStale, Cursor.advance, hlength]
  obtain ⟨y, more, hcons⟩ := List.exists_cons_of_ne_nil hne
  have hy : isWordChar y := hkey y (hcons ▸ .head _)
  have hrest : c.rest = y :: (more ++ ':' :: ' ' :: rest) := by rw [hc, hcons, List.cons_append]
  refine ⟨!inFlow ⟨c, ts, bs, none, [], true⟩ && decide (bs.head? = some c.mark.column),
    fetch_eq hskip hrest refreshKeys_clear (hbs.le _) ?_ (refreshKeys_candidate (hstale _))⟩
  rw [fetchAt_word hy, fetchPlain]
  simp only [saveCandidate, dropCandidate, inFlow, List.isEmpty_nil, Bool.not_true, hplain, List.reverse_reverse, bind,
    Except.bind, pure, Except.pure, if_true]
  rfl

theorem insertAfter_append {front : List Token} (h : s.tokens = front ++ ts) (t : Token) :
    s.insertAfter ts.length t = { s with tokens := front ++ t :: ts } := by
  have hlength : (front ++ ts).length - ts.length = front.length := by simp
  rw [insertAfter, h, hlength, List.take_left, List.drop_left]

def opening (bs : List Nat) (m : Mark) : List Token := if bs = [] then [⟨.blockMappingStart, m, m⟩] else []

theorem insertKey_eq {t : Token} {m : Mark} {required : Bool} (hbs : IsOpen bs) (hm : m.column = 0)
    (candidate : Option KeyCandidate) :
    insertKey ⟨ts.length, m, required⟩ ⟨c, t :: ts, bs, candidate, [], allowed⟩ =
      ⟨c, t :: ⟨.key, m, m⟩ :: (opening bs m ++ ts), [0], candidate, [], allowed⟩ := by
  have hkey := insertAfter_append (s := ⟨c, t :: ts, bs, candidate, [], allowed⟩) (show _ = [t] ++ ts from rfl) ⟨.key, m, m⟩
  have hstart := insertAfter_append (s := ⟨c, t :: ⟨.key, m, m⟩ :: ts, bs, candidate, [], allowed⟩)
    (show _ = [t, ⟨.key, m, m⟩] ++ ts from rfl) ⟨.blockMappingStart, m, m⟩
  rw [insertKey, hkey]
  obtain rfl | rfl := hbs
  · simp only [List.cons_append, List.nil_append] at hstart ⊢
    rw [hstart]
    simp [opensBlock, inFlow, innerColumn, opening, hm]
  · simp [opensBlock, inFlow, innerColumn, opening, hm]

/-- A colon turns what comes before it into a key. -/
theorem fetch_colon (t : Token) {m : Mark} {required : Bool} (hbs : IsOpen bs) (hm : m.column = 0)
    (hstale : isStale c.mark ⟨ts.length, m, required⟩ = false) (hc : c.rest = ':' :: ' ' :: text) :
    fetch ⟨c, t :: ts, bs, some ⟨ts.length, m, required⟩, [], false⟩ =
      .ok ⟨c.advance 1, ⟨.value, c.mark, (c.advance 1).mark⟩ :: t :: ⟨.key, m, m⟩ :: (opening bs m ++ ts), [0], none,
        [], false⟩ := by
  have hsolid : c.rest.head?.all isSolid := by
    rw [hc]
    rfl
  refine fetch_eq (skipGap_solid hsolid) hc (refreshKeys_candidate hstale) (hbs.le _) ?_ refreshKeys_clear
  rw [fetchAt_colon, fetchValue]
  simp only [insertKey_eq hbs hm]
  rfl

theorem fetch_quoted (ts : List Token) {rest : List Char} (hprintable : ∀ x ∈ text, isPrintable x)
    (hc : c.rest = ' ' :: '"' :: (escape text ++ '"' :: rest)) :
    ∃ next t, t.lexeme = .scalar (String.ofList text) .doubleQuoted ∧ next.rest = rest ∧
      fetch ⟨c, ts, [0], none, [], false⟩ = .ok ⟨next, t :: ts, [0], none, [], false⟩ := by
  have hrest : (c.advance 1).rest = '"' :: (escape text ++ '"' :: rest) :=
    Cursor.rest_advance (show c.rest = [' '] ++ _ from hc)
  have hread := readQuoted_escape hprintable hrest
  have hend : ((c.advance 1).advance ((escape text).length + 2)).rest = rest := by
    have hlist : (c.advance 1).rest = ('"' :: (escape text ++ ['"'])) ++ rest := by rw [hrest]; simp
    have := Cursor.rest_advance hlist
    simpa using this
  refine ⟨(c.advance 1).advance ((escape text).length + 2), ⟨.scalar (String.ofList text) .doubleQuoted,
    (c.advance 1).mark, ((c.advance 1).advance ((escape text).length + 2)).mark⟩, rfl, hend,
    fetch_eq (skipGap_space hc rfl) hrest refreshKeys_clear (by simp) ?_ refreshKeys_clear⟩
  rw [fetchAt_quote, fetchWith]
  simp only [saveCandidate, bind, Except.bind, hread, Bool.false_eq_true, if_false]
  rfl

theorem fetch_word (ts : List Token) {word after : List Char} {p : PlainScalar} (hne : word ≠ []) (hword : ∀ x ∈ word, isWordChar x)
    (hc : c.rest = ' ' :: (word ++ after)) (hread : readPlain false 1 (c.advance 1) = .ok p) :
    fetch ⟨c, ts, [0], none, [], false⟩ = .ok ⟨p.next,
      ⟨.scalar (String.ofList p.text.reverse) .plain, (c.advance 1).mark, p.stop⟩ :: ts, [0], none, [], p.broken⟩ := by
  obtain ⟨y, more, rfl⟩ := List.exists_cons_of_ne_nil hne
  have hy := hword y (.head _)
  have hrest : (c.advance 1).rest = y :: (more ++ after) := Cursor.rest_advance (show c.rest = [' '] ++ _ from hc)
  have hsolid : Option.all isSolid (y :: (more ++ after)).head? := isSolid_of_isWordChar hy
  refine fetch_eq (skipGap_space hc hsolid) hrest refreshKeys_clear (by simp) ?_ refreshKeys_clear
  have hinner (tokens : List Token) (cursor : Cursor) :
      readPlain (inFlow ⟨cursor, tokens, [0], none, [], false⟩) (innerColumn ⟨cursor, tokens, [0], none, [], false⟩)
        (c.advance 1) = .ok p := hread
  rw [fetchAt_word hy, fetchPlain]
  simp only [saveCandidate, bind, Except.bind, hinner, Bool.false_eq_true, if_false]
  rfl

end Scaffold.Yaml.Scanner
