import Scaffold.Proofs.Python.Literals
import Scaffold.Proofs.Python.Parameters

namespace Scaffold.Python

namespace Literal

def Unmarked (flags : List Char) : Prop := ∀ c ∈ flags, isQuote c = false ∧ c ∉ ['b', 'B', 'f', 'F']

def IsUnmarked (s : String) : Prop := ∃ flags quote body, s = literal flags quote body ∧ quote ∈ quotes ∧ Unmarked flags

/-- What a string literal stands for, by its own letters and its own quote. -/
inductive StandsFor : String → List Char → Prop
  | raw {flags quote body : List Char} : Unmarked flags → quote ∈ quotes → ¬ quote <+: body →
      (∃ c ∈ flags, c ∈ ['r', 'R']) → StandsFor (literal flags quote body) body
  | decoded {flags quote body text : List Char} : Unmarked flags → quote ∈ quotes → ¬ quote <+: body →
      (∀ c ∈ flags, c ∉ ['r', 'R']) → Decodes SignedHex body text → StandsFor (literal flags quote body) text

/-- The strings of a source text: they begin with letters and a quote, and end where the quote stands again. What is
between the quotes of bytes and formatted strings does not matter. Old strings stand between backquotes. -/
inductive IsQuoted : String → Prop
  | plain {flags quote body : List Char} : (∀ c ∈ flags, isQuote c = false) → quote ∈ quotes → ¬ quote <+: body →
      isPaired body = true → IsQuoted (literal flags quote body)
  | marked {flags quote rest : List Char} : (∀ c ∈ flags, isQuote c = false) → quote ∈ quotes →
      (∃ c ∈ flags, c ∈ ['b', 'B', 'f', 'F']) → IsQuoted (.ofList (flags ++ quote ++ rest))
  | backquoted {before : List Char} : IsQuoted (.ofList (before ++ ['`']))

theorem StandsFor.isUnmarked {s : String} {text : List Char} (h : StandsFor s text) : IsUnmarked s := by
  cases h with
  | raw hflags hquote => exact ⟨_, _, _, rfl, hquote, hflags⟩
  | decoded hflags hquote => exact ⟨_, _, _, rfl, hquote, hflags⟩

theorem StandsFor.content?_eq {s : String} {text : List Char} (h : StandsFor s text) :
    content? s = some (.ofList text) := by
  have hunmarked {flags : List Char} (h : Unmarked flags) : ¬ flags.any ['b', 'B', 'f', 'F'].contains = true := by
    simpa using fun c hc => (h c hc).2
  cases h with
  | raw hflags hquote hbody hraw =>
      rw [content?_quoted (fun c hc => (hflags c hc).1) hquote hbody, if_neg (hunmarked hflags),
        if_pos (by simpa using hraw)]
  | decoded hflags hquote hbody hraw hdecodes =>
      rw [content?_quoted (fun c hc => (hflags c hc).1) hquote hbody, if_neg (hunmarked hflags),
        if_neg (by simpa using hraw), unescape_of_decodes hdecodes]

theorem exists_standsFor {flags quote body : List Char} (hflags : Unmarked flags) (hquote : quote ∈ quotes)
    (hbody : ¬ quote <+: body) (hpaired : isPaired body = true) :
    ∃ text, StandsFor (literal flags quote body) text := by
  by_cases hraw : ∃ c ∈ flags, c ∈ ['r', 'R']
  · exact ⟨body, .raw hflags hquote hbody hraw⟩
  · obtain ⟨text, htext⟩ := exists_decodes (fun _ _ _ h => SignedHex.not_mem h) hpaired
    exact ⟨text, .decoded hflags hquote hbody (fun c hc h => hraw ⟨c, hc, h⟩) htext⟩

theorem content?_marked {flags quote : List Char} (hflags : ∀ c ∈ flags, isQuote c = false) (hquote : quote ∈ quotes)
    (hmarked : ∃ c ∈ flags, c ∈ ['b', 'B', 'f', 'F']) (rest : List Char) :
    content? (.ofList (flags ++ quote ++ rest)) = none := by
  obtain ⟨htake, hdrop⟩ := span_flags hflags hquote rest
  have hcontains : (flags.map Char.toLower).contains 'b' = true ∨ (flags.map Char.toLower).contains 'f' = true := by
    rw [contains_map_toLower (by decide +kernel) (by decide), contains_map_toLower (by decide +kernel) (by decide)]
    obtain ⟨c, hc, hmark⟩ := hmarked
    simp only [List.mem_cons, List.not_mem_nil, or_false] at hmark
    obtain rfl | rfl | rfl | rfl := hmark
    · exact .inl ⟨_, hc, .inl rfl⟩
    · exact .inl ⟨_, hc, .inr rfl⟩
    · exact .inr ⟨_, hc, .inl rfl⟩
    · exact .inr ⟨_, hc, .inr rfl⟩
  have hguard : (!(quote ++ rest).isEmpty && !(flags.map Char.toLower).contains 'b' &&
      !(flags.map Char.toLower).contains 'f') = false := by
    obtain h | h := hcontains <;> rw [h] <;> simp
  rw [content?, String.toList_ofList, htake, hdrop, hguard]
  rfl

theorem between?_backquote {quote : List Char} (hquote : quote ∈ quotes) (text : List Char) :
    between? quote (text ++ ['`']) = none := by
  have hlast : ∀ quote ∈ quotes, quote.reverse.isPrefixOf ('`' :: text.reverse) = false := by
    simp [quotes, List.isPrefixOf]
  rw [between?, List.reverse_append, List.reverse_singleton, List.singleton_append, hlast quote hquote]
  simp

theorem content?_backquoted (before : List Char) : content? (.ofList (before ++ ['`'])) = none := by
  rw [content?, String.toList_ofList, List.dropWhile_append]
  by_cases hbefore : (before.dropWhile fun c => !isQuote c).isEmpty = true
  · have hdrop : ['`'].dropWhile (fun c => !isQuote c) = [] := by decide
    rw [if_pos hbefore, hdrop]
    rfl
  · have hnone : quotes.findSome? (between? · (before.dropWhile (fun c => !isQuote c) ++ ['`'])) = none :=
      List.findSome?_eq_none_iff.mpr fun quote hquote => between?_backquote hquote _
    rw [if_neg hbefore, hnone]
    exact Option.bind_fun_none _

theorem flags_eq {flags quote rest flags' quote' rest' : List Char} (hflags : ∀ c ∈ flags, isQuote c = false)
    (hquote : quote ∈ quotes) (hflags' : ∀ c ∈ flags', isQuote c = false) (hquote' : quote' ∈ quotes)
    (h : String.ofList (flags ++ quote ++ rest) = .ofList (flags' ++ quote' ++ rest')) : flags = flags' := by
  rw [← (span_flags hflags hquote rest).1, String.ofList_injective h, (span_flags hflags' hquote' rest').1]

theorem not_isUnmarked_of_marked {flags quote : List Char} (hflags : ∀ c ∈ flags, isQuote c = false)
    (hquote : quote ∈ quotes) (hmarked : ∃ c ∈ flags, c ∈ ['b', 'B', 'f', 'F']) (rest : List Char) :
    ¬ IsUnmarked (.ofList (flags ++ quote ++ rest)) := by
  rintro ⟨flags', quote', body, heq, hquote', hflags'⟩
  rw [literal, List.append_assoc (flags' ++ quote')] at heq
  obtain rfl := flags_eq hflags hquote (fun c hc => (hflags' c hc).1) hquote' heq
  obtain ⟨c, hc, hmark⟩ := hmarked
  exact (hflags' c hc).2 hmark

theorem not_isUnmarked_of_backquoted (before : List Char) : ¬ IsUnmarked (.ofList (before ++ ['`'])) := by
  rintro ⟨flags, quote, body, heq, hquote, -⟩
  have hends : ∀ quote ∈ quotes, ∀ text : List Char, (text ++ quote).getLast? ≠ some '`' := by
    simp [quotes, List.getLast?_append]
  refine hends quote hquote (flags ++ quote ++ body) ?_
  rw [← String.ofList_injective heq, List.getLast?_concat]

/-- A string of a source text stands for something if and only if it is neither bytes, nor formatted, nor between
backquotes. -/
theorem IsQuoted.cases {s : String} (h : IsQuoted s) :
    (∃ text, StandsFor s text) ∨ ¬ IsUnmarked s ∧ content? s = none := by
  cases h with
  | @plain flags quote body hflags hquote hbody hpaired =>
      by_cases hmarked : ∃ c ∈ flags, c ∈ ['b', 'B', 'f', 'F']
      · rw [literal, List.append_assoc (flags ++ quote)]
        exact .inr ⟨not_isUnmarked_of_marked hflags hquote hmarked _, content?_marked hflags hquote hmarked _⟩
      · exact .inl (exists_standsFor (fun c hc => ⟨hflags c hc, fun h => hmarked ⟨c, hc, h⟩⟩) hquote hbody hpaired)
  | marked hflags hquote hmarked =>
      exact .inr ⟨not_isUnmarked_of_marked hflags hquote hmarked _, content?_marked hflags hquote hmarked _⟩
  | backquoted => exact .inr ⟨not_isUnmarked_of_backquoted _, content?_backquoted _⟩

theorem IsQuoted.isUnmarked_iff {s : String} (h : IsQuoted s) : IsUnmarked s ↔ ∃ text, StandsFor s text := by
  refine ⟨fun hs => ?_, fun ⟨_, hs⟩ => hs.isUnmarked⟩
  obtain hs' | ⟨hs', -⟩ := h.cases
  · exact hs'
  · exact absurd hs hs'

theorem IsQuoted.content?_eq_some_iff {s t : String} (h : IsQuoted s) : content? s = some t ↔ StandsFor s t.toList := by
  refine ⟨fun hs => ?_, fun hs => by rw [hs.content?_eq, String.ofList_toList]⟩
  obtain ⟨text, htext⟩ | ⟨-, hnone⟩ := h.cases
  · obtain rfl := Option.some.inj (hs.symm.trans htext.content?_eq)
    rwa [String.toList_ofList]
  · cases hnone.symm.trans hs

end Literal

def IsComma (t : Tree) : Prop := t.kind = .symbol "," ∧ t.info.named = false

inductive Listing : List Tree → Prop
  | last {e : Tree} : e.info.named = true → Listing [e]
  | trailing {e comma : Tree} : e.info.named = true → IsComma comma → Listing [e, comma]
  | beside {e : Tree} {rest : List Tree} : e.info.named = true → Listing rest → Listing (e :: rest)
  | separated {e comma : Tree} {rest : List Tree} : e.info.named = true → IsComma comma → Listing rest →
      Listing (e :: comma :: rest)

/-- What the grammar says of the statements that are expressions, and of strings. -/
def ShapeFits (src : Source) (t : Tree) : Prop :=
  match t.kind with
  | .expressionStatement => Listing t.children
  | .string => t.info.named = true ∧ Literal.IsQuoted (textOf src t)
  | _ => True

inductive IsShaped (src : Source) : Tree → Prop
  | node {t : Tree} : ShapeFits src t → (∀ c ∈ t.children, IsShaped src c) → IsShaped src t

variable {src : Source} {t : Tree}

theorem IsShaped.fits (h : IsShaped src t) : ShapeFits src t := by
  cases h with
  | node h _ => exact h

theorem IsShaped.of_mem_children (h : IsShaped src t) : ∀ c ∈ t.children, IsShaped src c := by
  cases h with
  | node _ h => exact h

theorem Listing.exists_named {ts : List Tree} (h : Listing ts) : ∃ e rest, ts = e :: rest ∧ e.info.named = true := by
  cases h with
  | last he | trailing he _ | beside he _ | separated he _ _ => exact ⟨_, _, rfl, he⟩

theorem Listing.filter_named_iff {ts : List Tree} (h : Listing ts) (e : Tree) :
    ts.filter (fun c => c.info.named) = [e] ↔ ts = [e] ∨ ∃ comma, IsComma comma ∧ ts = [e, comma] := by
  constructor
  · intro hfilter
    have hmore {rest : List Tree} (h : Listing rest) : rest.filter (fun c => c.info.named) ≠ [] := by
      obtain ⟨x, more, rfl, hx⟩ := h.exists_named
      simp [hx]
    cases h with
    | last he => exact .inl (by simpa [he] using hfilter)
    | @trailing e' comma he hcomma =>
        obtain rfl : e' = e := by simpa [he, hcomma.2] using hfilter
        exact .inr ⟨comma, hcomma, rfl⟩
    | beside he hrest =>
        rw [List.filter_cons_of_pos (by simp [he])] at hfilter
        exact absurd (List.cons.inj hfilter).2 (hmore hrest)
    | separated he hcomma hrest =>
        rw [List.filter_cons_of_pos (by simp [he]), List.filter_cons_of_neg (by simp [hcomma.2])] at hfilter
        exact absurd (List.cons.inj hfilter).2 (hmore hrest)
  · obtain ⟨x, more, hts, hx⟩ := h.exists_named
    rintro (rfl | ⟨comma, hcomma, rfl⟩)
    · obtain rfl := (List.cons.inj hts).1
      simp [hx]
    · obtain rfl := (List.cons.inj hts).1
      simp [hx, hcomma.2]

def IsStringExpression (e : Tree) : Prop := e.kind = .string ∨ e.kind = .concatenatedString

def stringsIn (e : Tree) : List Tree :=
  if e.kind = .string then [e] else e.children.filter fun c => c.kind = .string

theorem exists_forall₂_iff {α β : Type} {R : α → β → Prop} {as : List α} :
    (∃ bs, List.Forall₂ R as bs) ↔ ∀ a ∈ as, ∃ b, R a b := by
  induction as with
  | nil => simp
  | cons a as ih =>
      rw [List.forall_mem_cons, ← ih]
      constructor
      · rintro ⟨_, _ | ⟨hb, hbs⟩⟩
        exact ⟨⟨_, hb⟩, _, hbs⟩
      · rintro ⟨⟨b, hb⟩, bs, hbs⟩
        exact ⟨b :: bs, .cons hb hbs⟩

theorem mapM_content?_eq_some_iff {ss : List Tree} (hss : ∀ s ∈ ss, Literal.IsQuoted (textOf src s))
    {contents : List String} : ss.mapM (fun s => Literal.content? (textOf src s)) = some contents ↔
      List.Forall₂ (fun s content => Literal.StandsFor (textOf src s) content.toList) ss contents := by
  induction ss generalizing contents with
  | nil => simp [eq_comm]
  | cons s ss ih =>
      rw [List.forall_mem_cons] at hss
      rw [List.mapM_cons]
      constructor
      · intro h
        obtain ⟨content, hcontent, h⟩ := Option.bind_eq_some_iff.mp h
        obtain ⟨contents, hcontents, h⟩ := Option.bind_eq_some_iff.mp h
        obtain rfl := Option.some.inj h
        exact .cons (hss.1.content?_eq_some_iff.mp hcontent) ((ih hss.2).mp hcontents)
      · rintro (_ | ⟨hcontent, hcontents⟩)
        rw [hss.1.content?_eq_some_iff.mpr hcontent, (ih hss.2).mpr hcontents]
        rfl

theorem IsShaped.isQuoted (h : IsShaped src t) (hk : t.kind = .string) :
    t.info.named = true ∧ Literal.IsQuoted (textOf src t) := by
  have hfits := h.fits
  rw [ShapeFits, hk] at hfits
  exact hfits

theorem IsShaped.isQuoted_of_mem_stringsIn {s : Tree} (h : IsShaped src t) (hs : s ∈ stringsIn t) :
    Literal.IsQuoted (textOf src s) := by
  rw [stringsIn] at hs
  split at hs
  · next hk =>
      obtain rfl := List.mem_singleton.mp hs
      exact (h.isQuoted hk).2
  · obtain ⟨hmem, hk⟩ := List.mem_filter.mp hs
    exact ((h.of_mem_children s hmem).isQuoted (by simpa using hk)).2

theorem join_eq (contents : List String) : String.join contents = .ofList (contents.map String.toList).flatten := by
  apply String.toList_injective
  rw [String.toList_join, String.toList_ofList, List.flatMap_def]

theorem stringContent?_eq (e : Tree) (hnamed : ∀ c ∈ e.children, c.kind = .string → c.info.named = true) :
    stringContent? src e = if e.kind = .string ∨ e.kind = .concatenatedString then
      ((stringsIn e).mapM fun s => Literal.content? (textOf src s)).map String.join else none := by
  unfold stringContent?
  split
  · next hk =>
      rw [if_pos (.inl hk), stringsIn, if_pos hk, List.mapM_cons]
      cases Literal.content? (textOf src e) with
      | none => rfl
      | some content => exact congrArg some (by simp [join_eq])
  · next hk =>
      have hstrings : (e.namedChildren.filter fun c => c.kind = .string) =
          e.children.filter fun c => c.kind = .string := by
        rw [Syntax.Tree.namedChildren, List.filter_filter]
        refine List.filter_congr fun c hc => ?_
        by_cases hstring : c.kind = .string
        · simp [hstring, hnamed c hc hstring]
        · simp [hstring]
      rw [if_pos (.inr hk), stringsIn, if_neg (by rw [hk]; decide), hstrings]
  · next hstring hconcatenated => rw [if_neg (not_or.mpr ⟨hstring, hconcatenated⟩)]

/-- Each literal of a string expression is read by itself. -/
theorem IsShaped.stringContent?_eq_some_iff (h : IsShaped src t) {content : String} :
    stringContent? src t = some content ↔ IsStringExpression t ∧
      ∃ texts, List.Forall₂ (fun s text => Literal.StandsFor (textOf src s) text) (stringsIn t) texts ∧
        content = .ofList texts.flatten := by
  have hnamed (c : Tree) (hc : c ∈ t.children) (hk : c.kind = .string) : c.info.named = true :=
    ((h.of_mem_children c hc).isQuoted hk).1
  have hread {contents : List String} : (stringsIn t).mapM (fun s => Literal.content? (textOf src s)) = some contents ↔
      List.Forall₂ (fun s content => Literal.StandsFor (textOf src s) content.toList) (stringsIn t) contents :=
    mapM_content?_eq_some_iff fun _ hs => h.isQuoted_of_mem_stringsIn hs
  rw [stringContent?_eq t hnamed, Option.ite_none_right_eq_some, Option.map_eq_some_iff]
  refine and_congr_right fun _ => ⟨?_, ?_⟩
  · rintro ⟨contents, hcontents, rfl⟩
    refine ⟨contents.map String.toList, ?_, join_eq contents⟩
    rw [List.forall₂_map_right_iff]
    exact hread.mp hcontents
  · rintro ⟨texts, htexts, rfl⟩
    refine ⟨texts.map String.ofList, hread.mpr ?_, ?_⟩
    · simpa [List.forall₂_map_right_iff] using htexts
    · rw [join_eq, List.map_map]
      simp [Function.comp_def]

def OpensWith (t first : Tree) : Prop :=
  ∃ body comments rest, t.childByField? "body" = some body ∧ body.namedChildren = comments ++ first :: rest ∧
    (∀ c ∈ comments, c.kind = .comment) ∧ first.kind ≠ .comment

theorem opensWith_iff {first : Tree} : OpensWith t first ↔
    ∃ body, t.childByField? "body" = some body ∧
      body.namedChildren.find? (fun c => c.kind ≠ .comment) = some first := by
  simp only [OpensWith, List.find?_eq_some_iff_append]
  constructor
  · rintro ⟨body, comments, rest, hbody, hentries, hcomments, hfirst⟩
    exact ⟨body, hbody, by simpa using hfirst, comments, rest, hentries, by simpa using hcomments⟩
  · rintro ⟨body, hbody, hfirst, comments, rest, hentries, hcomments⟩
    exact ⟨body, comments, rest, hbody, hentries, by simpa using hcomments, by simpa using hfirst⟩

theorem docstringOf_eq_some {doc : String} : docstringOf src t = some doc ↔ ∃ first e content, OpensWith t first ∧
    first.kind = .expressionStatement ∧ first.namedChildren = [e] ∧ stringContent? src e = some content ∧
    doc = Docstring.clean content := by
  simp only [opensWith_iff]
  constructor
  · intro h
    obtain ⟨body, hbody, h⟩ := Option.bind_eq_some_iff.mp h
    obtain ⟨first, hfirst, h⟩ := Option.bind_eq_some_iff.mp h
    obtain ⟨_, hk, h⟩ := Option.bind_eq_some_iff.mp h
    split at h
    · next e he =>
        obtain ⟨content, hcontent, rfl⟩ := Option.map_eq_some_iff.mp h
        have hkind : first.kind = .expressionStatement := by
          by_contra hother
          rw [guard, if_neg hother] at hk
          cases hk
        exact ⟨first, e, content, ⟨body, hbody, hfirst⟩, hkind, he, hcontent, rfl⟩
    · cases h
  · rintro ⟨first, e, content, ⟨body, hbody, hfirst⟩, hk, he, hcontent, hdoc⟩
    rw [docstringOf, hbody, Option.bind_eq_bind, Option.bind_some, hfirst, Option.bind_eq_bind, Option.bind_some, hk,
      he, hdoc]
    exact congrArg (Option.map Docstring.clean) hcontent

theorem mem_children_of_namedChildren_eq {e : Tree} (h : t.namedChildren = [e]) : e ∈ t.children :=
  (List.mem_filter.mp (h ▸ List.mem_singleton_self e)).1

theorem IsShaped.of_opensWith {first : Tree} (h : IsShaped src t) (hfirst : OpensWith t first) :
    IsShaped src first := by
  obtain ⟨body, comments, rest, hbody, hentries, -, -⟩ := hfirst
  have hmem : first ∈ body.namedChildren := by
    rw [hentries]
    exact List.mem_append_right _ List.mem_cons_self
  exact (h.of_mem_children body (List.mem_of_find?_eq_some hbody)).of_mem_children first (List.mem_filter.mp hmem).1

theorem IsShaped.listing (h : IsShaped src t) (hk : t.kind = .expressionStatement) : Listing t.children := by
  have hfits := h.fits
  rw [ShapeFits, hk] at hfits
  exact hfits

/-- A definition whose first statement is a string expression, with nothing or a comma after it. -/
def OpensWithStrings (t e : Tree) : Prop :=
  ∃ first, OpensWith t first ∧ first.kind = .expressionStatement ∧
    (first.children = [e] ∨ ∃ comma, IsComma comma ∧ first.children = [e, comma]) ∧ IsStringExpression e

theorem docstringOf_eq_some_iff_texts (ht : IsShaped src t) {doc : String} : docstringOf src t = some doc ↔
    ∃ e texts, OpensWithStrings t e ∧
      List.Forall₂ (fun s text => Literal.StandsFor (textOf src s) text) (stringsIn e) texts ∧
      doc = Docstring.clean (.ofList texts.flatten) := by
  rw [docstringOf_eq_some]
  constructor
  · rintro ⟨first, e, content, hfirst, hk, he, hcontent, hdoc⟩
    have hshaped : IsShaped src first := ht.of_opensWith hfirst
    have hmem : e ∈ first.children := mem_children_of_namedChildren_eq he
    obtain ⟨hstrings, texts, htexts, rfl⟩ := (hshaped.of_mem_children e hmem).stringContent?_eq_some_iff.mp hcontent
    exact ⟨e, texts, ⟨first, hfirst, hk, ((hshaped.listing hk).filter_named_iff e).mp he, hstrings⟩, htexts, hdoc⟩
  · rintro ⟨e, texts, ⟨first, hfirst, hk, halone, hstrings⟩, htexts, hdoc⟩
    have hshaped : IsShaped src first := ht.of_opensWith hfirst
    have he : first.namedChildren = [e] := ((hshaped.listing hk).filter_named_iff e).mpr halone
    have hmem : e ∈ first.children := mem_children_of_namedChildren_eq he
    exact ⟨first, e, _, hfirst, hk, he,
      (hshaped.of_mem_children e hmem).stringContent?_eq_some_iff.mpr ⟨hstrings, texts, htexts, rfl⟩, hdoc⟩

theorem IsShaped.of_opensWithStrings {e : Tree} (h : IsShaped src t) (he : OpensWithStrings t e) : IsShaped src e := by
  obtain ⟨first, hfirst, -, halone, -⟩ := he
  refine (h.of_opensWith hfirst).of_mem_children e ?_
  obtain halone | ⟨comma, -, halone⟩ := halone <;> rw [halone] <;> exact List.mem_cons_self

/-- A definition has a docstring if and only if its first statement is made of strings, none of which is bytes or
formatted. Each string is read by itself, and cleaned is what they all stand for. -/
theorem docstringOf_eq_some_iff (ht : IsShaped src t) :
    ((∃ doc, docstringOf src t = some doc) ↔
      ∃ e, OpensWithStrings t e ∧ ∀ s ∈ stringsIn e, Literal.IsUnmarked (textOf src s)) ∧
    ∀ doc, docstringOf src t = some doc ↔ ∃ e texts, OpensWithStrings t e ∧
      List.Forall₂ (fun s text => Literal.StandsFor (textOf src s) text) (stringsIn e) texts ∧
      doc = Docstring.clean (.ofList texts.flatten) := by
  refine ⟨?_, fun doc => docstringOf_eq_some_iff_texts ht⟩
  simp only [docstringOf_eq_some_iff_texts ht]
  constructor
  · rintro ⟨_, e, texts, he, htexts, -⟩
    refine ⟨e, he, fun s hs => ?_⟩
    obtain ⟨text, htext⟩ := exists_forall₂_iff.mp ⟨texts, htexts⟩ s hs
    exact htext.isUnmarked
  · rintro ⟨e, he, hunmarked⟩
    obtain ⟨texts, htexts⟩ := exists_forall₂_iff.mpr fun s hs =>
      ((ht.of_opensWithStrings he).isQuoted_of_mem_stringsIn hs).isUnmarked_iff.mp (hunmarked s hs)
    exact ⟨_, e, texts, he, htexts, rfl⟩

theorem isShaped_parsedNode {k : Kind} {field : Option String} {start stop : Nat} {cs : List Tree} :
    IsShaped src (parsedNode k field start stop cs) ↔
      ShapeFits src (parsedNode k field start stop cs) ∧ ∀ c ∈ cs, IsShaped src c :=
  ⟨fun h => ⟨h.fits, h.of_mem_children⟩, fun h => .node h.1 h.2⟩

namespace Docstrings

def sampleText : String := "class A:\n # c\n 'a\\n' r\"\\d\"\n"

def escapedPart : Tree :=
  parsedNode .string none 15 20 [
    parsedNode .stringStart none 15 16 [],
    parsedNode .stringContent none 16 19 [parsedNode .escapeSequence none 17 19 []],
    parsedNode .stringEnd none 19 20 []]

def rawPart : Tree :=
  parsedNode .string none 21 26 [
    parsedNode .stringStart none 21 23 [],
    parsedNode .stringContent none 23 25 [],
    parsedNode .stringEnd none 25 26 []]

def sampleParts : Tree := parsedNode .concatenatedString none 15 26 [escapedPart, rawPart]

def sampleClass : Tree :=
  parsedNode .classDefinition none 0 26 [
    parsedNode (.symbol "class") none 0 5 [],
    parsedNode .identifier (some "name") 6 7 [],
    parsedNode (.symbol ":") none 7 8 [],
    parsedNode .comment none 10 13 [],
    parsedNode .block (some "body") 15 26 [
      parsedNode .expressionStatement none 15 26 [sampleParts]]]

/-- The backslash of the raw string stays, and the escape before it does not. -/
theorem docstringOf_sampleClass : IsShaped (.ofString sampleText) sampleClass ∧
    docstringOf (.ofString sampleText) sampleClass = some "a\n\\d" := by
  have hescaped : textOf (.ofString sampleText) escapedPart = Literal.literal [] ['\''] ['a', '\\', 'n'] := by
    decide +kernel
  have hraw : textOf (.ofString sampleText) rawPart = Literal.literal ['r'] ['"'] ['\\', 'd'] := by decide +kernel
  have hescapedQuoted : Literal.IsQuoted (textOf (.ofString sampleText) escapedPart) := by
    rw [hescaped]
    exact .plain (List.forall_mem_nil _) (by decide) (by decide) (by decide)
  have hrawQuoted : Literal.IsQuoted (textOf (.ofString sampleText) rawPart) := by
    rw [hraw]
    exact .plain (by simp [Literal.isQuote]) (by decide) (by decide) (by decide)
  have hshaped : IsShaped (.ofString sampleText) sampleClass := by
    simp only [sampleClass, sampleParts, escapedPart, rawPart, isShaped_parsedNode, ShapeFits, parsedNode_kind,
      parsedNode_children, List.forall_mem_cons, List.not_mem_nil, false_implies, implies_true, true_and, and_true]
    exact ⟨.last rfl, ⟨rfl, hescapedQuoted⟩, rfl, hrawQuoted⟩
  have hdecoded : Literal.Decodes Literal.SignedHex ['a', '\\', 'n'] ['a', '\n'] :=
    .plain (by decide) (.escape (.single (by decide)) .nil)
  have hparts : List.Forall₂ (fun s text => Literal.StandsFor (textOf (.ofString sampleText) s) text)
      (stringsIn sampleParts) [['a', '\n'], ['\\', 'd']] := by
    refine .cons ?_ (.cons ?_ .nil)
    · rw [hescaped]
      exact .decoded (by simp [Literal.Unmarked]) (by decide) (by decide) (by simp) hdecoded
    · rw [hraw]
      exact .raw (by simp [Literal.Unmarked, Literal.isQuote]) (by decide) (by decide) (by simp)
  have hopens : OpensWithStrings sampleClass sampleParts :=
    ⟨_, ⟨_, [], [], rfl, rfl, by simp, by decide⟩, rfl, .inl rfl, .inr rfl⟩
  exact ⟨hshaped, ((docstringOf_eq_some_iff hshaped).2 _).mpr ⟨sampleParts, _, hopens, hparts, by decide +kernel⟩⟩

def tupleText : String := "def f():\n  'doc',\n"

def tuplePart : Tree :=
  parsedNode .string none 11 16 [
    parsedNode .stringStart none 11 12 [],
    parsedNode .stringContent none 12 15 [],
    parsedNode .stringEnd none 15 16 []]

def tupleFunction : Tree :=
  parsedNode .functionDefinition none 0 17 [
    parsedNode (.symbol "def") none 0 3 [],
    parsedNode .identifier (some "name") 4 5 [],
    parsedNode .parameters (some "parameters") 5 7 [
      parsedNode (.symbol "(") none 5 6 [],
      parsedNode (.symbol ")") none 6 7 []],
    parsedNode (.symbol ":") none 7 8 [],
    parsedNode .block (some "body") 11 17 [
      parsedNode .expressionStatement none 11 17 [tuplePart, parsedNode (.symbol ",") none 16 17 []]]]

/-- A string with a comma after it is a tuple, so there should be no docstring, but the string is taken for one. -/
theorem docstringOf_tupleFunction : IsShaped (.ofString tupleText) tupleFunction ∧
    (∀ first, OpensWith tupleFunction first → ∀ e, first.children ≠ [e]) ∧
    docstringOf (.ofString tupleText) tupleFunction = some "doc" := by
  have hpart : textOf (.ofString tupleText) tuplePart = Literal.literal [] ['\''] ['d', 'o', 'c'] := by decide +kernel
  have hquoted : Literal.IsQuoted (textOf (.ofString tupleText) tuplePart) := by
    rw [hpart]
    exact .plain (List.forall_mem_nil _) (by decide) (by decide) (by decide)
  refine ⟨?_, fun first hfirst e => ?_, ?_⟩
  · simp only [tupleFunction, tuplePart, isShaped_parsedNode, ShapeFits, parsedNode_kind, parsedNode_children,
      List.forall_mem_cons, List.not_mem_nil, false_implies, implies_true, true_and, and_true]
    exact ⟨.trailing rfl ⟨rfl, rfl⟩, rfl, hquoted⟩
  · obtain ⟨body, hbody, hfirst⟩ := opensWith_iff.mp hfirst
    obtain rfl := Option.some.inj hbody
    obtain rfl := Option.some.inj hfirst
    simp
  · decide +kernel

end Docstrings

end Scaffold.Python
