import Scaffold.Proofs.Docstring.Nesting

namespace Scaffold.Docstring

def content (cs : List Char) : List Char := cs.filter fun c => !Text.isBlank c

theorem content_append (cs ds : List Char) : content (cs ++ ds) = content cs ++ content ds := List.filter_append ..

theorem content_eq_nil_iff {cs : List Char} : content cs = [] ↔ isBlankLine cs = true := by
  rw [content, List.filter_eq_nil_iff, isBlankLine, List.all_eq_true]
  simp

theorem content_blanks {blanks : List Char} (h : ∀ c ∈ blanks, Text.isBlank c = true) : content blanks = [] :=
  content_eq_nil_iff.mpr (List.all_eq_true.mpr h)

theorem content_joinWith (lines : List (List Char)) :
    content (Text.joinWith "\n" (lines.map String.ofList)).toList = lines.flatMap content := by
  induction lines with
  | nil => rfl
  | cons line lines ih =>
      by_cases hlines : lines = []
      · subst hlines
        simp [Text.joinWith]
      · have hnewline : content "\n".toList = [] := by decide
        rw [List.map_cons, Text.joinWith_cons _ _ (by simpa using hlines), String.toList_append, String.toList_append,
          content_append, content_append, ih, hnewline, List.append_nil, String.toList_ofList, List.flatMap_cons]

theorem content_eq_flatMap (cs : List Char) : content cs = (Text.splitChars '\n' cs).flatMap content := by
  rw [← content_joinWith, Text.toList_joinWith_splitChars rfl]

theorem content_expandTabsFrom (column : Nat) (line : List Char) :
    content (expandTabsFrom column line) = content line := by
  induction line generalizing column with
  | nil => rfl
  | cons c line ih =>
      rw [expandTabsFrom]
      split
      · next htab =>
          rw [content_append, content_blanks fun _ => isBlank_of_mem_replicate, ih, htab]
          rfl
      · rw [← List.singleton_append, content_append, ih, ← content_append, List.singleton_append]

theorem mem_expandTabsFrom {column : Nat} {line : List Char} {c : Char} (h : c ∈ expandTabsFrom column line) :
    c = ' ' ∨ c ∈ line ∧ c ≠ '\t' := by
  induction line generalizing column with
  | nil => cases h
  | cons d line ih =>
      rw [expandTabsFrom] at h
      split at h
      · obtain h | h := List.mem_append.mp h
        · exact .inl (List.eq_of_mem_replicate h)
        · exact (ih h).imp_right fun h => ⟨.tail _ h.1, h.2⟩
      · next htab =>
          obtain rfl | h := List.mem_cons.mp h
          · exact .inr ⟨.head _, htab⟩
          · exact (ih h).imp_right fun h => ⟨.tail _ h.1, h.2⟩

/-- A line with its tabs expanded loses some of the blanks that it begins with. -/
def Sheds (line out : List Char) : Prop :=
  ∃ blanks, expandTabs line = blanks ++ out ∧ ∀ c ∈ blanks, Text.isBlank c = true

theorem Sheds.content_eq {line out : List Char} (h : Sheds line out) : content out = content line := by
  obtain ⟨blanks, heq, hblanks⟩ := h
  rw [← content_expandTabsFrom 0 line, ← expandTabs, heq, content_append, content_blanks hblanks, List.nil_append]

theorem Sheds.isBlankLine_eq {line out : List Char} (h : Sheds line out) : isBlankLine out = isBlankLine line := by
  rw [Bool.eq_iff_iff, ← content_eq_nil_iff, ← content_eq_nil_iff, h.content_eq]

theorem Sheds.mem {line out : List Char} (h : Sheds line out) {c : Char} (hc : c ∈ out) :
    c = ' ' ∨ c ∈ line ∧ c ≠ '\t' := by
  obtain ⟨blanks, heq, -⟩ := h
  have hmem : c ∈ expandTabs line := heq ▸ List.mem_append_right _ hc
  exact mem_expandTabsFrom hmem

theorem sheds_expandTabs (line : List Char) : Sheds line (expandTabs line) := ⟨[], rfl, List.forall_mem_nil _⟩

theorem sheds_dropWhile (line : List Char) : Sheds line ((expandTabs line).dropWhile Text.isBlank) :=
  ⟨_, List.takeWhile_append_dropWhile.symm, fun _ => List.mem_takeWhile_imp⟩

theorem exists_dropMargin (m : Nat) (line : List Char) : ∃ blanks, line = blanks ++ dropMargin m line ∧
    (∀ c ∈ blanks, Text.isBlank c = true) ∧ blanks.length = min m (indentation line) := by
  have hle : min m (indentation line) ≤ (line.takeWhile Text.isBlank).length := Nat.min_le_right ..
  have hlength : (line.take (min m (indentation line))).length = min m (indentation line) := by
    rw [List.length_take]
    exact Nat.min_eq_left (hle.trans (List.takeWhile_prefix _).length_le)
  refine ⟨line.take (min m (indentation line)), (List.take_append_drop _ _).symm, fun c hc => ?_, hlength⟩
  have hbegins := List.prefix_of_prefix_length_le (List.take_prefix _ line) (List.takeWhile_prefix Text.isBlank)
    (hlength.trans_le hle)
  exact List.mem_takeWhile_imp (hbegins.subset hc)

theorem sheds_dropMargin (m : Nat) (line : List Char) : Sheds line (dropMargin m (expandTabs line)) := by
  obtain ⟨blanks, heq, hblanks, -⟩ := exists_dropMargin m (expandTabs line)
  exact ⟨blanks, heq, hblanks⟩

theorem indentation_dropMargin (m : Nat) (line : List Char) :
    indentation (dropMargin m line) = indentation line - m := by
  obtain ⟨blanks, heq, hblanks, hlength⟩ := exists_dropMargin m line
  have hindent := congrArg indentation heq
  rw [indentation_append hblanks, hlength] at hindent
  omega

def moved (first : List Char) (rest : List (List Char)) : List (List Char × List Char) :=
  (first, (expandTabs first).dropWhile Text.isBlank) ::
    rest.map fun line => (line, dropMargin ((margin? (rest.map expandTabs)).getD 0) (expandTabs line))

theorem map_fst_moved (first : List Char) (rest : List (List Char)) :
    (moved first rest).map Prod.fst = first :: rest := by
  simp [moved, Function.comp_def]

theorem map_snd_moved (first : List Char) (rest : List (List Char)) :
    (moved first rest).map Prod.snd = unindent ((first :: rest).map expandTabs) := by
  rw [moved, List.map_cons, List.map_map, List.map_cons, unindent]
  cases margin? (rest.map expandTabs) with
  | none => simp [Function.comp_def, dropMargin]
  | some m => simp [Function.comp_def]

theorem sheds_of_mem_moved {first : List Char} {rest : List (List Char)} {p : List Char × List Char}
    (h : p ∈ moved first rest) : Sheds p.1 p.2 := by
  obtain rfl | h := List.mem_cons.mp h
  · exact sheds_dropWhile first
  · obtain ⟨line, -, rfl⟩ := List.mem_map.mp h
    exact sheds_dropMargin _ line

theorem trimLines_eq_dropWhile (lines : List (List Char)) :
    trimLines lines = (lines.rdropWhile isBlankLine).dropWhile isBlankLine :=
  rfl

theorem trimLines_split (lines : List (List Char)) : ∃ before after, lines = before ++ trimLines lines ++ after ∧
    (∀ l ∈ before, isBlankLine l = true) ∧ ∀ l ∈ after, isBlankLine l = true := by
  refine ⟨(lines.rdropWhile isBlankLine).takeWhile isBlankLine, lines.rtakeWhile isBlankLine, ?_,
    fun _ => List.mem_takeWhile_imp, fun _ => List.mem_rtakeWhile_imp⟩
  rw [trimLines_eq_dropWhile, List.takeWhile_append_dropWhile, List.rdropWhile_append_rtakeWhile]

theorem isBlankLine_ends (lines : List (List Char)) :
    (∀ l ∈ (trimLines lines).head?, isBlankLine l = false) ∧
      ∀ l ∈ (trimLines lines).getLast?, isBlankLine l = false := by
  rw [trimLines_eq_dropWhile]
  constructor
  · intro l hl
    have hfirst := List.head?_dropWhile_not isBlankLine (lines.rdropWhile isBlankLine)
    rwa [Option.mem_def.mp hl] at hfirst
  · intro l hl
    obtain ⟨hne, rfl⟩ := List.mem_getLast?_eq_getLast hl
    have hfull : lines.rdropWhile isBlankLine ≠ [] := fun h => hne (by rw [h]; rfl)
    rw [(List.dropWhile_suffix isBlankLine).getLast hne]
    exact eq_false_of_ne_true (List.rdropWhile_last_not isBlankLine lines hfull)

theorem moved_split (first : List Char) (rest : List (List Char)) :
    ∃ before kept after, moved first rest = before ++ kept ++ after ∧
      kept.map Prod.snd = trimLines (unindent ((first :: rest).map expandTabs)) ∧
      (∀ p ∈ before, isBlankLine p.2 = true) ∧ ∀ p ∈ after, isBlankLine p.2 = true := by
  obtain ⟨blank, blank', hsplit, hblank, hblank'⟩ := trimLines_split (unindent ((first :: rest).map expandTabs))
  rw [← map_snd_moved] at hsplit ⊢
  obtain ⟨front, after, hmoved, hfront, rfl⟩ := List.map_eq_append_iff.mp hsplit
  obtain ⟨before, kept, rfl, rfl, hkept⟩ := List.map_eq_append_iff.mp hfront
  exact ⟨before, kept, after, hmoved, hkept, fun p hp => hblank _ (List.mem_map_of_mem hp),
    fun p hp => hblank' _ (List.mem_map_of_mem hp)⟩

def later (before : List (List Char)) (kept : List (List Char × List Char)) : List (List Char × List Char) :=
  (kept.drop (1 - before.length)).filter fun p => !isBlankLine p.2

theorem later_eq {first : List Char} {rest : List (List Char)} {before kept after : List (List Char × List Char)}
    (hmoved : moved first rest = before ++ kept ++ after) (hbefore : ∀ p ∈ before, isBlankLine p.2 = true)
    (hafter : ∀ p ∈ after, isBlankLine p.2 = true) :
    later (before.map Prod.fst) kept = (moved first rest).tail.filter fun p => !isBlankLine p.2 := by
  have hnone {ps : List (List Char × List Char)} (h : ∀ p ∈ ps, isBlankLine p.2 = true) (n : Nat) :
      (ps.drop n).filter (fun p => !isBlankLine p.2) = [] := by
    rw [List.filter_eq_nil_iff]
    intro p hp
    simp [h p (List.mem_of_mem_drop hp)]
  rw [hmoved, ← List.drop_one, List.append_assoc, List.drop_append, List.drop_append, List.filter_append,
    List.filter_append, hnone hbefore, hnone hafter, later, List.length_map]
  simp

theorem margin?_le {m : Nat} {lines : List (List Char)} (hm : margin? lines = some m) {line : List Char}
    (hline : line ∈ lines) (h : isBlankLine line = false) : m ≤ indentation line := by
  refine (List.min?_eq_some_iff.mp hm).2 _ (List.mem_map_of_mem ?_)
  exact List.mem_filter.mpr ⟨hline, by simp [h]⟩

theorem exists_margin?_eq {m : Nat} {lines : List (List Char)} (hm : margin? lines = some m) :
    ∃ line ∈ lines, isBlankLine line = false ∧ indentation line = m := by
  obtain ⟨line, hline, hindent⟩ := List.mem_map.mp (List.min?_eq_some_iff.mp hm).1
  obtain ⟨hmem, hblank⟩ := List.mem_filter.mp hline
  exact ⟨line, hmem, by simpa using hblank, hindent⟩

/-- All lines after the first that are not blank move to the left by the same number of columns. -/
theorem exists_indentation_eq (first : List Char) (rest : List (List Char)) :
    ∃ m, (∀ p ∈ (moved first rest).tail, isBlankLine p.2 = false →
        indentation (expandTabs p.1) = m + indentation p.2) ∧
      ((∃ p ∈ (moved first rest).tail, isBlankLine p.2 = false) →
        ∃ p ∈ (moved first rest).tail, isBlankLine p.2 = false ∧ indentation p.2 = 0) := by
  have hshown (line : List Char) (n : Nat) :
      isBlankLine (dropMargin n (expandTabs line)) = isBlankLine (expandTabs line) := by
    rw [(sheds_dropMargin n line).isBlankLine_eq, (sheds_expandTabs line).isBlankLine_eq]
  rw [moved, List.tail_cons]
  cases hm : margin? (rest.map expandTabs) with
  | none =>
      have hnone (p : List Char × List Char) (hp : p ∈ rest.map fun line => (line, dropMargin 0 (expandTabs line))) :
          isBlankLine p.2 = true := by
        obtain ⟨line, hline, rfl⟩ := List.mem_map.mp hp
        exact (hshown line 0).trans (margin?_eq_none_iff.mp hm _ (List.mem_map_of_mem hline))
      refine ⟨0, fun p hp h => ?_, ?_⟩
      · cases (hnone p hp).symm.trans h
      · rintro ⟨p, hp, h⟩
        cases (hnone p hp).symm.trans h
  | some m =>
      refine ⟨m, fun p hp h => ?_, fun _ => ?_⟩
      · obtain ⟨line, hline, rfl⟩ := List.mem_map.mp hp
        have hle := margin?_le hm (List.mem_map_of_mem hline) ((hshown line m).symm.trans h)
        have hindent := indentation_dropMargin m (expandTabs line)
        dsimp only [Option.getD_some]
        omega
      · obtain ⟨out, hout, h, hindent⟩ := exists_margin?_eq hm
        obtain ⟨line, hline, rfl⟩ := List.mem_map.mp hout
        refine ⟨_, List.mem_map_of_mem hline, (hshown line m).trans h, ?_⟩
        exact (indentation_dropMargin m _).trans (by rw [hindent, Nat.sub_self])

theorem indents_moved (first : List Char) (rest : List (List Char)) {shown : List (List Char × List Char)}
    (hshown : shown = (moved first rest).tail.filter fun p => !isBlankLine p.2) :
    (shown ≠ [] → (shown.map fun p => indentation p.2).min? = some 0) ∧
      ∀ p ∈ shown, ∀ q ∈ shown, (indentation p.2 : Int) - indentation q.2 =
        indentation (expandTabs p.1) - indentation (expandTabs q.1) := by
  obtain ⟨m, hindent, hleast⟩ := exists_indentation_eq first rest
  have hmem (p : List Char × List Char) : p ∈ shown ↔ p ∈ (moved first rest).tail ∧ isBlankLine p.2 = false := by
    simp [hshown]
  constructor
  · intro hne
    obtain ⟨p, hp⟩ := List.exists_mem_of_ne_nil _ hne
    obtain ⟨q, hq, hblank, hzero⟩ := hleast ⟨p, (hmem p).mp hp⟩
    rw [List.min?_eq_some_iff]
    refine ⟨?_, fun n _ => Nat.zero_le n⟩
    rw [← hzero]
    exact List.mem_map_of_mem ((hmem q).mpr ⟨hq, hblank⟩)
  · intro p hp q hq
    have hpm := hindent p ((hmem p).mp hp).1 ((hmem p).mp hp).2
    have hqm := hindent q ((hmem q).mp hq).1 ((hmem q).mp hq).2
    omega

/-- The lines of a text that are kept, each with what becomes of it. The others are blank. -/
structure Keeps (text result : String) (before : List (List Char)) (kept : List (List Char × List Char))
    (after : List (List Char)) : Prop where
  text_lines : Text.splitChars '\n' text.toList = before ++ kept.map Prod.fst ++ after
  result_lines : Text.splitChars '\n' result.toList = kept.map Prod.snd
  sheds : ∀ p ∈ kept, Sheds p.1 p.2
  blank_before : ∀ l ∈ before, isBlankLine l = true
  blank_after : ∀ l ∈ after, isBlankLine l = true

/-- What is left of a text is normalized: it has the same content, no tabs and no blank lines at its ends, and the
lines after the first stand as far to the left as they can without moving against each other. -/
structure Normalizes (text result : String) : Prop where
  content_eq : content result.toList = content text.toList
  no_tab : '\t' ∉ result.toList
  ends : result ≠ "" → (∀ l ∈ (Text.splitChars '\n' result.toList).head?, isBlankLine l = false) ∧
    ∀ l ∈ (Text.splitChars '\n' result.toList).getLast?, isBlankLine l = false
  indents : ∃ before kept after, Keeps text result before kept after ∧
    (later before kept ≠ [] → ((later before kept).map fun p => indentation p.2).min? = some 0) ∧
    ∀ p ∈ later before kept, ∀ q ∈ later before kept, (indentation p.2 : Int) - indentation q.2 =
      indentation (expandTabs p.1) - indentation (expandTabs q.1)
  eq_empty_iff : result = "" ↔ ∀ c ∈ text.toList, Text.isBlank c = true

theorem mem_cleanLines {text out : List Char} (h : out ∈ cleanLines text) :
    ∃ line ∈ Text.splitChars '\n' text, Sheds line out := by
  obtain ⟨first, rest, hlines⟩ := List.exists_cons_of_ne_nil (Text.splitChars_ne_nil '\n' text)
  obtain ⟨before, after, hsplit, -⟩ := trimLines_split (unindent ((first :: rest).map expandTabs))
  rw [cleanLines, hlines] at h
  have hmem : out ∈ (moved first rest).map Prod.snd := by
    rw [map_snd_moved, hsplit]
    exact List.mem_append_left _ (List.mem_append_right _ h)
  obtain ⟨p, hp, rfl⟩ := List.mem_map.mp hmem
  have hline : p.1 ∈ (moved first rest).map Prod.fst := List.mem_map_of_mem hp
  rw [map_fst_moved] at hline
  exact ⟨p.1, by rwa [hlines], sheds_of_mem_moved hp⟩

theorem content_cleanLines (text : List Char) : (cleanLines text).flatMap content = content text := by
  obtain ⟨first, rest, hlines⟩ := List.exists_cons_of_ne_nil (Text.splitChars_ne_nil '\n' text)
  obtain ⟨before, kept, after, hmoved, hkept, hbefore, hafter⟩ := moved_split first rest
  have hnone {ps : List (List Char × List Char)} (h : ∀ p ∈ ps, isBlankLine p.2 = true) :
      ps.flatMap (fun p => content p.2) = [] :=
    List.flatMap_eq_nil_iff.mpr fun p hp => content_eq_nil_iff.mpr (h p hp)
  calc (cleanLines text).flatMap content
      = kept.flatMap fun p => content p.2 := by rw [cleanLines, hlines, ← hkept, List.flatMap_map]
    _ = (moved first rest).flatMap fun p => content p.2 := by
        rw [hmoved, List.flatMap_append, List.flatMap_append, hnone hbefore, hnone hafter, List.nil_append,
          List.append_nil]
    _ = (moved first rest).flatMap fun p => content p.1 :=
        List.flatMap_congr fun p hp => (sheds_of_mem_moved hp).content_eq
    _ = content text := by
        rw [content_eq_flatMap, hlines, ← map_fst_moved first rest, List.flatMap_map]

theorem not_mem_of_mem_cleanLines {text out : List Char} (h : out ∈ cleanLines text) :
    '\n' ∉ out ∧ '\t' ∉ out := by
  obtain ⟨line, hline, hsheds⟩ := mem_cleanLines h
  constructor
  · intro hmem
    obtain h | ⟨h, -⟩ := hsheds.mem hmem
    · cases h
    · exact (Text.mem_of_mem_splitChars hline h).1 rfl
  · intro hmem
    obtain h | ⟨-, h⟩ := hsheds.mem hmem
    · cases h
    · exact h rfl

theorem splitChars_clean {text : String} (h : cleanLines text.toList ≠ []) :
    Text.splitChars '\n' (clean text).toList = cleanLines text.toList :=
  Text.splitChars_joinWith rfl h fun _ hout => (not_mem_of_mem_cleanLines hout).1

theorem clean_eq_empty {text : String} (h : cleanLines text.toList = []) : clean text = "" := by
  rw [clean, h]
  rfl

theorem content_clean (text : String) : content (clean text).toList = content text.toList := by
  rw [clean, content_joinWith, content_cleanLines]

theorem cleanLines_eq_nil_iff {text : List Char} : cleanLines text = [] ↔ content text = [] := by
  rw [← content_cleanLines]
  constructor
  · intro h
    rw [h]
    rfl
  · intro h
    have hends := (isBlankLine_ends (unindent ((Text.splitChars '\n' text).map expandTabs))).1
    rw [← cleanLines] at hends
    cases hlines : cleanLines text with
    | nil => rfl
    | cons line lines =>
        rw [hlines] at hends h
        have hline := content_eq_nil_iff.mp (List.append_eq_nil_iff.mp h).1
        cases (hends line rfl).symm.trans hline

theorem exists_keeps (text : String) : ∃ before kept after, Keeps text (clean text) before kept after ∧
    ∃ first rest, later before kept = (moved first rest).tail.filter fun p => !isBlankLine p.2 := by
  obtain ⟨first, rest, hlines⟩ := List.exists_cons_of_ne_nil (Text.splitChars_ne_nil '\n' text.toList)
  by_cases hclean : cleanLines text.toList = []
  · have hblank : ∀ l ∈ first :: rest, isBlankLine l = true := by
      have hcontent := cleanLines_eq_nil_iff.mp hclean
      rw [content_eq_flatMap, hlines, List.flatMap_eq_nil_iff] at hcontent
      exact fun l hl => content_eq_nil_iff.mp (hcontent l hl)
    have hnone : ∀ p ∈ (moved first rest).tail, isBlankLine p.2 = true := by
      intro p hp
      have hline : p.1 ∈ (moved first rest).map Prod.fst := List.mem_map_of_mem (List.mem_of_mem_tail hp)
      rw [map_fst_moved] at hline
      exact (sheds_of_mem_moved (List.mem_of_mem_tail hp)).isBlankLine_eq.trans (hblank _ hline)
    refine ⟨[], [(first, [])], rest, ⟨hlines, ?_, ?_, List.forall_mem_nil _, fun l hl => hblank l (.tail _ hl)⟩,
      first, rest, ?_⟩
    · rw [clean_eq_empty hclean]
      rfl
    · intro p hp
      rw [List.mem_singleton.mp hp]
      refine ⟨expandTabs first, (List.append_nil _).symm, List.all_eq_true.mp ?_⟩
      exact (sheds_expandTabs first).isBlankLine_eq.trans (hblank first (.head _))
    · exact (List.filter_eq_nil_iff.mpr fun p hp => by simp [hnone p hp]).symm
  · obtain ⟨before, kept, after, hmoved, hkept, hbefore, hafter⟩ := moved_split first rest
    have hsheds (p : List Char × List Char) (hp : p ∈ before ++ kept ++ after) : Sheds p.1 p.2 :=
      sheds_of_mem_moved (hmoved ▸ hp)
    refine ⟨before.map Prod.fst, kept, after.map Prod.fst, ⟨?_, ?_, ?_, ?_, ?_⟩, first, rest,
      later_eq hmoved hbefore hafter⟩
    · rw [hlines, ← map_fst_moved first rest, hmoved, List.map_append, List.map_append]
    · rw [splitChars_clean hclean, hkept, cleanLines, hlines]
    · exact fun p hp => hsheds p (by simp [hp])
    · rw [List.forall_mem_map]
      exact fun p hp => (hsheds p (by simp [hp])).isBlankLine_eq.symm.trans (hbefore p hp)
    · rw [List.forall_mem_map]
      exact fun p hp => (hsheds p (by simp [hp])).isBlankLine_eq.symm.trans (hafter p hp)

/-- Cleaning a docstring loses nothing but blanks, and leaves as few of them as it can without moving lines apart. -/
theorem normalizes_clean (text : String) : Normalizes text (clean text) := by
  have hempty : clean text = "" ↔ cleanLines text.toList = [] := by
    refine ⟨fun h => ?_, clean_eq_empty⟩
    have hcontent := content_clean text
    rw [h] at hcontent
    exact cleanLines_eq_nil_iff.mpr hcontent.symm
  refine ⟨content_clean text, ?_, ?_, ?_, ?_⟩
  · intro hmem
    obtain h | ⟨s, hs, hmem⟩ := Text.mem_toList_joinWith hmem
    · cases List.mem_singleton.mp h
    · obtain ⟨line, hline, rfl⟩ := List.mem_map.mp hs
      exact (not_mem_of_mem_cleanLines hline).2 (by simpa using hmem)
  · intro hne
    rw [splitChars_clean (mt hempty.mpr hne)]
    exact isBlankLine_ends _
  · obtain ⟨before, kept, after, hkeeps, first, rest, hlater⟩ := exists_keeps text
    exact ⟨before, kept, after, hkeeps, indents_moved first rest hlater⟩
  · rw [hempty, cleanLines_eq_nil_iff, content_eq_nil_iff, isBlankLine, List.all_eq_true]

end Scaffold.Docstring
