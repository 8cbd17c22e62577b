import Scaffold.Proofs.Python.Escapes

namespace Scaffold.Python.Literal

theorem between?_self (quote body : List Char) : between? quote (quote ++ body ++ quote) = some body := by
  have hlength : (quote ++ body ++ quote).length = 2 * quote.length + body.length := by
    simp only [List.length_append]
    omega
  rw [between?, if_pos]
  · rw [List.append_assoc, List.drop_left, ← List.append_assoc, hlength, Nat.add_sub_cancel_left, List.take_left]
  · refine ⟨by omega, ?_, ?_⟩
    · rw [List.isPrefixOf_iff_prefix, List.append_assoc]
      exact List.prefix_append _ _
    · rw [List.isPrefixOf_iff_prefix, List.reverse_append]
      exact List.prefix_append _ _

theorem between?_eq_none {quote text : List Char} (h : ¬ quote <+: text) : between? quote text = none := by
  rw [between?, if_neg]
  rw [List.isPrefixOf_iff_prefix]
  exact fun hquote => h hquote.2.1

/-- The right quote is the first that fits, as long as the body does not begin with it: a quote of one character and
two more at the start of the body would look like a triple quote. -/
theorem findSome?_between? {quote body : List Char} (hquote : quote ∈ quotes) (hbody : ¬ quote <+: body) :
    quotes.findSome? (between? · (quote ++ body ++ quote)) = some body := by
  have hself := between?_self quote body
  have hnone (other : List Char) (h : ¬ other <+: quote ++ body ++ quote) := between?_eq_none h
  simp only [quotes, List.mem_cons, List.not_mem_nil, or_false] at hquote
  -- a quote that is tried before the right one fails at its first character, or else at its second, which is the
  -- first one of the body
  obtain rfl | rfl | rfl | rfl := hquote
  · simp only [quotes, List.findSome?_cons, hself]
  · have hdouble := hnone ['"', '"', '"'] (by simp)
    simp only [quotes, List.findSome?_cons, hdouble, hself]
  · have hdouble := hnone ['"', '"', '"'] (by cases body <;> simp_all)
    have hsingle := hnone ['\'', '\'', '\''] (by simp)
    simp only [quotes, List.findSome?_cons, hdouble, hsingle, hself]
  · have hdouble := hnone ['"', '"', '"'] (by simp)
    have hsingle := hnone ['\'', '\'', '\''] (by cases body <;> simp_all)
    have hone := hnone ['"'] (by simp)
    simp only [quotes, List.findSome?_cons, hdouble, hsingle, hone, hself]

theorem toLower_of_le {c : Char} (h : 128 ≤ c.toNat) : c.toLower = c := by
  delta Char.toLower
  rw [dif_neg]
  rintro ⟨-, hupper⟩
  have := UInt32.le_iff_toNat_le.mp hupper
  change c.toNat ≤ 90 at this
  omega

/-- A flag counts in either case, if it does so on ASCII. -/
theorem contains_map_toLower {flag : Char}
    (hascii : ∀ n < 128, (Char.ofNat n).toLower = flag ↔ .ofNat n = flag ∨ .ofNat n = flag.toUpper)
    (hupper : flag.toUpper.toNat < 128) (flags : List Char) :
    (flags.map Char.toLower).contains flag = true ↔ ∃ c ∈ flags, c = flag ∨ c = flag.toUpper := by
  have hlower (c : Char) : c.toLower = flag ↔ c = flag ∨ c = flag.toUpper := by
    by_cases hc : c.toNat < 128
    · have := hascii c.toNat hc
      rwa [Char.ofNat_toNat] at this
    · rw [toLower_of_le (Nat.le_of_not_lt hc), or_iff_left]
      rintro rfl
      exact hc hupper
  simp only [List.contains_iff_mem, List.mem_map, hlower]

def literal (flags quote body : List Char) : String := .ofList (flags ++ quote ++ body ++ quote)

theorem span_flags {flags quote : List Char} (hflags : ∀ c ∈ flags, isQuote c = false) (hquote : quote ∈ quotes)
    (rest : List Char) : (flags ++ quote ++ rest).takeWhile (fun c => !isQuote c) = flags ∧
      (flags ++ quote ++ rest).dropWhile (fun c => !isQuote c) = quote ++ rest := by
  have hletters : ∀ c ∈ flags, (!isQuote c) = true := by simpa using hflags
  have hfirst : ∀ quote ∈ quotes, ∃ c more, quote = c :: more ∧ isQuote c = true := by
    simp [quotes, isQuote]
  obtain ⟨c, more, rfl, hc⟩ := hfirst quote hquote
  rw [List.append_assoc, List.takeWhile_append_of_pos hletters, List.dropWhile_append_of_pos hletters]
  simp [hc]

/-- What a literal stands for, by its flags. -/
theorem content?_quoted {flags quote body : List Char} (hflags : ∀ c ∈ flags, isQuote c = false)
    (hquote : quote ∈ quotes) (hbody : ¬ quote <+: body) :
    content? (literal flags quote body) =
      if flags.any ['b', 'B', 'f', 'F'].contains then none
      else some (.ofList (if flags.any ['r', 'R'].contains then body else unescape body)) := by
  obtain ⟨htake, hdrop⟩ := span_flags hflags hquote (body ++ quote)
  have hnone : flags.any ['b', 'B', 'f', 'F'].contains =
      ((flags.map Char.toLower).contains 'b' || (flags.map Char.toLower).contains 'f') := by
    rw [Bool.eq_iff_iff, Bool.or_eq_true, contains_map_toLower (by decide +kernel) (by decide) flags,
      contains_map_toLower (by decide +kernel) (by decide) flags, ← exists_or]
    simp [← and_or_left, or_assoc]
  have hraw : flags.any ['r', 'R'].contains = (flags.map Char.toLower).contains 'r' := by
    rw [Bool.eq_iff_iff, contains_map_toLower (by decide +kernel) (by decide) flags]
    simp
  have hfull : (quote ++ (body ++ quote)).isEmpty = false := by
    have hall : ∀ quote ∈ quotes, quote ≠ [] := by decide
    simp [hall quote hquote]
  have hread := findSome?_between? hquote hbody
  rw [← List.append_assoc] at htake hdrop
  rw [List.append_assoc] at hread
  rw [content?, literal, String.toList_ofList, htake, hdrop, hread, hfull, hnone, hraw]
  generalize (flags.map Char.toLower).contains 'b' = isBytes
  generalize (flags.map Char.toLower).contains 'f' = isFormatted
  cases isBytes <;> cases isFormatted <;> rfl

/-- A text begins with a numbered escape in which a plus sign stands in the place of the first digit. -/
def BeginsSigned (text : List Char) : Prop :=
  ∃ k width digits, ∃ d : Char, ∃ rest, (k, width) ∈ widths ∧ digits.length + 1 = width ∧
    Numeral 16 digits d.toNat ∧ text = '\\' :: k :: '+' :: (digits ++ rest)

/-- Such an escape begins at some place of a text that is not escaped itself. -/
def HasSigned (body : List Char) : Prop :=
  ∃ before after, body = before ++ after ∧ isPaired before = true ∧ BeginsSigned after

theorem not_hasSigned_nil : ¬ HasSigned [] := by
  rintro ⟨before, after, hbody, -, k, width, digits, d, rest, -, -, -, rfl⟩
  simp at hbody

theorem hasSigned_plain {c : Char} (hc : c ≠ '\\') {rest : List Char} : HasSigned (c :: rest) ↔ HasSigned rest := by
  constructor
  · rintro ⟨before, after, hbody, hpaired, hsigned⟩
    cases before with
    | nil =>
        obtain ⟨k, width, digits, d, rest, -, -, -, rfl⟩ := hsigned
        exact absurd (List.cons.inj hbody).1 hc
    | cons b before =>
        obtain ⟨rfl, rfl⟩ := List.cons.inj hbody
        exact ⟨before, after, rfl, (isPaired_plain hc before).symm.trans hpaired, hsigned⟩
  · rintro ⟨before, after, rfl, hpaired, hsigned⟩
    exact ⟨c :: before, after, rfl, (isPaired_plain hc before).trans hpaired, hsigned⟩

theorem hasSigned_append {before : List Char} (h : '\\' ∉ before) {rest : List Char} :
    HasSigned (before ++ rest) ↔ HasSigned rest := by
  refine plain_induction h .rfl ?_
  intro c before hc ih
  rw [List.cons_append, hasSigned_plain hc, ih]

theorem hasSigned_escaped {c : Char} {rest : List Char} :
    HasSigned ('\\' :: c :: rest) ↔ BeginsSigned ('\\' :: c :: rest) ∨ HasSigned rest := by
  constructor
  · rintro ⟨before, after, hbody, hpaired, hsigned⟩
    match before with
    | [] => exact .inl (hbody ▸ hsigned)
    | [b] =>
        obtain ⟨rfl, -⟩ := List.cons.inj hbody
        cases hpaired
    | b :: b' :: before =>
        obtain ⟨rfl, hmore⟩ := List.cons.inj hbody
        obtain ⟨rfl, rfl⟩ := List.cons.inj hmore
        exact .inr ⟨before, after, rfl, (isPaired_escaped c before).symm.trans hpaired, hsigned⟩
  · rintro (hsigned | ⟨before, after, rfl, hpaired, hsigned⟩)
    · exact ⟨[], _, rfl, rfl, hsigned⟩
    · exact ⟨'\\' :: c :: before, after, rfl, (isPaired_escaped c before).trans hpaired, hsigned⟩

theorem beginsSigned_escaped {k : Char} {text : List Char} : BeginsSigned ('\\' :: k :: text) ↔
    ∃ width digits, ∃ d : Char, ∃ rest, (k, width) ∈ widths ∧ digits.length + 1 = width ∧
      Numeral 16 digits d.toNat ∧ text = '+' :: (digits ++ rest) := by
  constructor
  · rintro ⟨k, width, digits, d, rest, hk, hlength, hnumeral, htext⟩
    obtain ⟨rfl, rfl⟩ := List.cons.inj (List.cons.inj htext).2
    exact ⟨width, digits, d, rest, hk, hlength, hnumeral, rfl⟩
  · rintro ⟨width, digits, d, rest, hk, hlength, hnumeral, rfl⟩
    exact ⟨k, width, digits, d, rest, hk, hlength, hnumeral, rfl⟩

/-- Where no sign stands an escape is the same with signs and without. Where one stands it is kept without them. -/
theorem Escapes.signed {esc rest decoded : List Char} (h : Escapes Hex esc rest decoded) :
    (¬ BeginsSigned ('\\' :: (esc ++ rest)) ∧ Escapes SignedHex esc rest decoded) ∨
      (BeginsSigned ('\\' :: (esc ++ rest)) ∧ ∃ k, esc = [k] ∧ decoded = ['\\', k]) := by
  cases h with
  | @single c d _ hsingle =>
      refine .inl ⟨fun hsigned => ?_, .single hsingle⟩
      obtain ⟨width, digits, d', rest, hk, -⟩ := beginsSigned_escaped.mp hsigned
      cases (not_single_of_mem_widths hk).1.symm.trans (simpleEscape?_eq_some_iff.mpr hsingle)
  | newline =>
      refine .inl ⟨fun hsigned => ?_, .newline⟩
      obtain ⟨width, digits, d', rest, hk, -⟩ := beginsSigned_escaped.mp hsigned
      exact (not_single_of_mem_widths hk).2.1 rfl
  | octal hne hlength hnumeral hrest =>
      refine .inl ⟨fun hsigned => ?_, .octal hne hlength hnumeral hrest⟩
      obtain ⟨values, hvalues, -⟩ := hnumeral
      cases hvalues with
      | nil => exact hne rfl
      | cons hdigit _ =>
          obtain ⟨width, digits, d', rest, hk, -⟩ := beginsSigned_escaped.mp hsigned
          cases (not_single_of_mem_widths hk).2.2.1.symm.trans (octal?_eq_some_iff.mpr hdigit)
  | @numbered k width digits _ d hk hnumber =>
      refine .inl ⟨fun hsigned => ?_, .numbered hk (.inl hnumber)⟩
      obtain ⟨width', digits', d', rest, -, -, -, htext⟩ := beginsSigned_escaped.mp hsigned
      have hwidth := (not_single_of_mem_widths hk).2.2.2
      obtain ⟨hlength, hnumeral⟩ := hnumber
      cases digits with
      | nil => simp [← hlength] at hwidth
      | cons c digits =>
          exact (hnumeral.plain (Nat.le_refl 16) c (.head _)).2.2 (List.cons.inj htext).1
  | @kept c _ hsingle hnewline hoctal hnumber =>
      by_cases hsigned : BeginsSigned ('\\' :: ([c] ++ rest))
      · exact .inr ⟨hsigned, c, rfl, rfl⟩
      · refine .inl ⟨hsigned, .kept hsingle hnewline hoctal ?_⟩
        rintro width digits d hk hdigits (hnumber' | ⟨digits, rfl, hlength, hnumeral⟩)
        · exact hnumber width digits d hk hdigits hnumber'
        · obtain ⟨rest, rfl⟩ := hdigits
          exact hsigned ⟨c, width, digits, d, rest, hk, hlength, hnumeral, rfl⟩

theorem Escapes.exists_cons {esc rest decoded : List Char} (h : Escapes Hex esc rest decoded) :
    ∃ c more, esc = c :: more ∧ '\\' ∉ more := by
  cases h with
  | single => exact ⟨_, [], rfl, by simp⟩
  | newline => exact ⟨_, [], rfl, by simp⟩
  | octal hne _ hnumeral _ =>
      cases esc with
      | nil => exact absurd rfl hne
      | cons c more =>
          exact ⟨c, more, rfl, fun h => (hnumeral.plain (by decide) _ (.tail _ h)).2.1 rfl⟩
  | @numbered k _ digits _ d _ hnumber =>
      exact ⟨k, digits, rfl, fun h => (hnumber.2.plain (by decide) _ h).2.1 rfl⟩
  | kept => exact ⟨_, [], rfl, by simp⟩

theorem unescape_append {before : List Char} (h : '\\' ∉ before) (rest : List Char) :
    unescape (before ++ rest) = before ++ unescape rest := by
  refine plain_induction h rfl ?_
  intro c before hc ih
  rw [List.cons_append, unescape_plain hc, ih, List.cons_append]

theorem Escapes.unique {esc esc' rest rest' decoded decoded' : List Char} (h : Escapes Hex esc rest decoded)
    (h' : Escapes Hex esc' rest' decoded') (heq : esc ++ rest = esc' ++ rest') : decoded = decoded' ∧ rest = rest' := by
  obtain ⟨hnone, hescape⟩ | ⟨hsigned, k, rfl, rfl⟩ := h.signed
  · obtain ⟨-, hescape'⟩ | ⟨hsigned, -⟩ := h'.signed
    · have hread := escape_of_escapes hescape
      rw [heq, escape_of_escapes hescape'] at hread
      obtain ⟨rfl, hlength⟩ := Prod.mk.inj hread
      exact ⟨rfl, (List.append_inj heq hlength.symm).2⟩
    · rw [heq] at hnone
      exact absurd hsigned hnone
  · obtain ⟨hnone, -⟩ | ⟨-, k', rfl, rfl⟩ := h'.signed
    · rw [heq] at hsigned
      exact absurd hsigned hnone
    · obtain ⟨rfl, rfl⟩ := List.cons.inj heq
      exact ⟨rfl, rfl⟩

theorem Decodes.unique {body out out' : List Char} (h : Decodes Hex body out) (h' : Decodes Hex body out') :
    out = out' := by
  induction h generalizing out' with
  | nil =>
      cases h'
      rfl
  | plain hc _ ih =>
      cases h' with
      | plain _ h' => rw [ih h']
      | escape => exact absurd rfl hc
  | @escape esc rest decoded out hescape _ ih =>
      generalize hbody : '\\' :: (esc ++ rest) = body at h'
      cases h' with
      | nil => cases hbody
      | plain hc _ => exact absurd (List.cons.inj hbody).1.symm hc
      | escape hescape' h' =>
          obtain ⟨rfl, rfl⟩ := hescape.unique hescape' (List.cons.inj hbody).2
          rw [ih h']

/-- A sign makes the decoded text shorter than it is without signs. Otherwise they are the same. -/
theorem Decodes.unescape_cases {body out : List Char} (h : Decodes Hex body out) :
    (¬ HasSigned body ∧ unescape body = out) ∨ (HasSigned body ∧ (unescape body).length < out.length) := by
  induction h with
  | nil => exact .inl ⟨not_hasSigned_nil, by rw [unescape]⟩
  | plain hc _ ih =>
      rw [hasSigned_plain hc, unescape_plain hc]
      simpa using ih
  | @escape esc rest decoded out hescape _ ih =>
      obtain ⟨c, more, rfl, hmore⟩ := hescape.exists_cons
      rw [List.cons_append, hasSigned_escaped, hasSigned_append hmore]
      obtain ⟨hnone, hescape⟩ | ⟨hsigned, k, hk, rfl⟩ := hescape.signed
      · rw [← List.cons_append, or_iff_right hnone, unescape_escaped hescape]
        simpa using ih
      · obtain ⟨rfl, rfl⟩ := List.cons.inj hk
        refine .inr ⟨.inl hsigned, ?_⟩
        obtain ⟨width, digits, d, rest, hk, hlength, hnumeral, rfl⟩ := beginsSigned_escaped.mp hsigned
        have hread : unescape ('\\' :: ((c :: '+' :: digits) ++ rest)) = [d] ++ unescape rest :=
          unescape_escaped (.numbered hk (.inr ⟨digits, rfl, hlength, hnumeral⟩))
        have hplain : unescape (('+' :: digits) ++ rest) = ('+' :: digits) ++ unescape rest := by
          refine unescape_append (fun h => ?_) rest
          obtain h | h := List.mem_cons.mp h
          · cases h
          · exact (hnumeral.plain (by decide) _ h).2.1 rfl
        have hle : (unescape (('+' :: digits) ++ rest)).length ≤ out.length := by
          obtain ⟨-, h⟩ | ⟨-, h⟩ := ih
          · exact Nat.le_of_eq (congrArg List.length h)
          · exact Nat.le_of_lt h
        rw [hplain] at hle
        change (unescape ('\\' :: ((c :: '+' :: digits) ++ rest))).length < _
        rw [hread]
        simp only [List.length_append, List.length_cons, List.length_nil] at hle ⊢
        omega

/-- A body that a quote can enclose: the quote stands at no place that is not escaped, and the last backslash does
not escape what comes after the body. -/
structure Enclosed (quote body : List Char) : Prop where
  paired : isPaired body = true
  unquoted : ∀ i ≤ body.length, isPaired (body.take i) = true → ¬ quote <+: body.drop i

theorem SignedHex.not_mem {width n : Nat} {digits : List Char} (h : SignedHex width digits n) : '\\' ∉ digits := by
  obtain ⟨-, hnumeral⟩ | ⟨rest, rfl, -, hnumeral⟩ := h
  · exact fun h => (hnumeral.plain (Nat.le_refl 16) _ h).2.1 rfl
  · intro h
    obtain h | h := List.mem_cons.mp h
    · cases h
    · exact (hnumeral.plain (Nat.le_refl 16) _ h).2.1 rfl

/-- Literals with the flag of bytes or of formatted strings stand for nothing. Raw literals stand for their body.
Others stand for what the body decodes to, where a number may have a plus sign before it: if one has it, this is
not what the body decodes to with numbers of digits alone, and otherwise it is. -/
theorem content?_literal {flags quote body : List Char} (hflags : ∀ c ∈ flags, isQuote c = false)
    (hquote : quote ∈ quotes) (hbody : Enclosed quote body) :
    (content? (literal flags quote body) = none ↔ ∃ c ∈ flags, c ∈ ['b', 'B', 'f', 'F']) ∧
    ((∀ c ∈ flags, c ∉ ['b', 'B', 'f', 'F']) →
      ((∃ c ∈ flags, c ∈ ['r', 'R']) → content? (literal flags quote body) = some (.ofList body)) ∧
      ((∀ c ∈ flags, c ∉ ['r', 'R']) →
        (∃ text, Decodes SignedHex body text ∧ content? (literal flags quote body) = some (.ofList text)) ∧
        ∃ text, (∀ out, Decodes Hex body out ↔ out = text) ∧
          (content? (literal flags quote body) = some (.ofList text) ↔ ¬ HasSigned body))) := by
  have hbegin : ¬ quote <+: body := hbody.unquoted 0 (Nat.zero_le _) rfl
  have hany (marks : List Char) : flags.any marks.contains = true ↔ ∃ c ∈ flags, c ∈ marks := by simp
  have hnone (marks : List Char) (h : ∀ c ∈ flags, c ∉ marks) : ¬ flags.any marks.contains = true := by simpa using h
  rw [content?_quoted hflags hquote hbegin]
  constructor
  · rw [← hany]
    split
    · next h => exact iff_of_true rfl h
    · next h => exact iff_of_false (by simp) h
  intro hflags
  rw [if_neg (hnone _ hflags)]
  refine ⟨fun hraw => by rw [if_pos ((hany _).mpr hraw)], fun hraw => ?_⟩
  rw [if_neg (hnone _ hraw)]
  constructor
  · obtain ⟨text, htext⟩ := exists_decodes (fun _ _ _ h => SignedHex.not_mem h) hbody.paired
    exact ⟨text, htext, by rw [unescape_of_decodes htext]⟩
  · obtain ⟨text, htext⟩ := exists_decodes (fun _ _ _ h => SignedHex.not_mem (.inl h)) hbody.paired
    refine ⟨text, fun out => ⟨fun hout => hout.unique htext, fun hout => hout ▸ htext⟩, ?_⟩
    rw [Option.some_inj, String.ofList_inj]
    obtain ⟨hnone, heq⟩ | ⟨hsigned, hlt⟩ := htext.unescape_cases
    · exact iff_of_true heq hnone
    · exact iff_of_false (fun h => Nat.ne_of_lt hlt (congrArg List.length h)) (not_not_intro hsigned)

/-- An escaped quote before two others does not end a literal in triple quotes. -/
theorem content?_literal_escapedQuote :
    Enclosed ['"', '"', '"'] ['\\', '"', '"', '"', '\\', 'n'] ∧
      ∃ text, Decodes SignedHex ['\\', '"', '"', '"', '\\', 'n'] text ∧
        content? (literal ['u'] ['"', '"', '"'] ['\\', '"', '"', '"', '\\', 'n']) = some (.ofList text) := by
  have hbody : Enclosed ['"', '"', '"'] ['\\', '"', '"', '"', '\\', 'n'] := ⟨by decide, by decide⟩
  exact ⟨hbody, (((content?_literal (by simp [isQuote]) (by decide) hbody).2 (by simp)).2 (by simp)).1⟩

/-- One digit with a sign is not two digits, so it should be kept, but it is decoded. -/
theorem content?_literal_signed :
    Enclosed ['"'] ['\\', 'x', '+', '1'] ∧ Decodes Hex ['\\', 'x', '+', '1'] ['\\', 'x', '+', '1'] ∧
      content? (literal [] ['"'] ['\\', 'x', '+', '1']) = some "\x01" := by
  refine ⟨⟨by decide, by decide⟩, ?_, ?_⟩
  · have hkept : Escapes Hex ['x'] ['+', '1'] ['\\', 'x'] := by
      refine .kept (by simp [singles]) (by decide) (fun v hv => ?_) (fun width digits d hk hdigits hnumber => ?_)
      · cases octal?_eq_some_iff.mpr hv
      · have hwidth := width?_eq_some_iff.mpr hk
        obtain rfl : 2 = width := Option.some.inj hwidth
        obtain rfl := hdigits.eq_of_length hnumber.1
        exact (hnumber.2.plain (Nat.le_refl 16) '+' (.head _)).2.2 rfl
    exact .escape hkept (.plain (by decide) (.plain (by decide) .nil))
  · have hone : SignedHex 2 ['+', '1'] 1 :=
      .inr ⟨['1'], rfl, rfl, [1], .cons ⟨by decide, by decide⟩ .nil, rfl⟩
    have hescape : Escapes SignedHex ['x', '+', '1'] [] ['\x01'] := .numbered (by decide) hone
    have hdecoded : Decodes SignedHex ['\\', 'x', '+', '1'] ['\x01'] := .escape hescape .nil
    rw [content?_quoted (by simp) (by decide) (by decide), if_neg (by simp), if_neg (by simp),
      unescape_of_decodes hdecoded]

end Scaffold.Python.Literal
