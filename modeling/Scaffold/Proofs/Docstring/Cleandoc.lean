import Mathlib.Data.List.DropRight
import Scaffold.Docstring
import Scaffold.Proofs.Text.Joining

namespace Scaffold.Docstring

namespace Cleandoc

/-- Put blanks for the tabs of a text. Columns count from the last line break. -/
def expandFrom (column : Nat) : List Char → List Char
  | [] => []
  | c :: cs =>
    if c = '\t' then
      let width := 8 - column % 8
      List.replicate width ' ' ++ expandFrom (column + width) cs
    else if c = '\n' ∨ c = '\r' then c :: expandFrom 0 cs
    else c :: expandFrom (column + 1) cs

def strip (line : List Char) : List Char := line.dropWhile Text.isBlank

/-- The margin after one more line. A line counts if something is left of it without its indentation. -/
def narrow (margin : Option Nat) (line : List Char) : Option Nat :=
  let content := (strip line).length
  if content = 0 then margin
  else
    let indent := line.length - content
    match margin with
    | none => some indent
    | some m => some (min m indent)

def unindent : List (List Char) → List (List Char)
  | [] => []
  | first :: rest =>
    strip first ::
      match rest.foldl narrow none with
      | some m => rest.map (List.drop m)
      | none => rest

def trim (lines : List (List Char)) : List (List Char) :=
  (lines.rdropWhile List.isEmpty).dropWhile List.isEmpty

def lines (text : List Char) : List (List Char) :=
  trim (unindent (Text.splitChars '\n' (expandFrom 0 text)))

end Cleandoc

def cleandoc (text : String) : String :=
  Text.joinWith "\n" ((Cleandoc.lines text.toList).map String.ofList)

def dropBlankEnds (text : String) : String :=
  Text.joinWith "\n" ((trimLines (Text.splitChars '\n' text.toList)).map String.ofList)

namespace Cleandoc

theorem splitChars_expandFrom {column : Nat} {cs line : List Char} {rest : List (List Char)} (hreturn : '\r' ∉ cs)
    (h : Text.splitChars '\n' cs = line :: rest) :
    Text.splitChars '\n' (expandFrom column cs) = expandTabsFrom column line :: rest.map expandTabs := by
  induction cs generalizing column line rest with
  | nil =>
      obtain ⟨rfl, rfl⟩ : [] = line ∧ [] = rest := by simpa [Text.splitChars] using h
      rfl
  | cons c cs ih =>
      simp only [List.mem_cons, not_or] at hreturn
      obtain ⟨piece, pieces, hcs⟩ := List.exists_cons_of_ne_nil (Text.splitChars_ne_nil '\n' cs)
      by_cases hnewline : c = '\n'
      · subst hnewline
        rw [Text.splitChars, if_pos rfl, hcs] at h
        obtain ⟨rfl, rfl⟩ := List.cons.inj h
        rw [expandFrom, if_neg (by decide), if_pos (.inl rfl), Text.splitChars, if_pos rfl, ih hreturn.2 hcs]
        rfl
      · rw [Text.splitChars_cons hnewline hcs] at h
        obtain ⟨rfl, rfl⟩ := List.cons.inj h
        rw [expandFrom, expandTabsFrom]
        by_cases htab : c = '\t'
        · rw [if_pos htab, if_pos htab]
          exact Text.splitChars_append (by simp [List.mem_replicate]) (ih hreturn.2 hcs)
        · rw [if_neg htab, if_neg (by simp [hnewline, Ne.symm hreturn.1]), if_neg htab]
          exact Text.splitChars_cons hnewline (ih hreturn.2 hcs)

/-- In a text without carriage returns, tabs can be expanded before or after it is cut into lines. -/
theorem splitChars_expand {cs : List Char} (hreturn : '\r' ∉ cs) :
    Text.splitChars '\n' (expandFrom 0 cs) = (Text.splitChars '\n' cs).map expandTabs := by
  obtain ⟨line, rest, hcs⟩ := List.exists_cons_of_ne_nil (Text.splitChars_ne_nil '\n' cs)
  rw [splitChars_expandFrom hreturn hcs, hcs]
  rfl

theorem length_strip (line : List Char) : line.length - (strip line).length = indentation line := by
  have hlength := congrArg List.length (List.takeWhile_append_dropWhile (p := Text.isBlank) (l := line))
  rw [List.length_append] at hlength
  rw [strip, indentation]
  omega

theorem length_strip_eq_zero_iff {line : List Char} : (strip line).length = 0 ↔ isBlankLine line = true := by
  rw [List.length_eq_zero_iff, strip, List.dropWhile_eq_nil_iff, isBlankLine, List.all_eq_true]

theorem margin?_cons_blank {line : List Char} {rest : List (List Char)} (h : isBlankLine line = true) :
    margin? (line :: rest) = margin? rest := by
  rw [margin?, margin?, List.filter_cons_of_neg (by simp [h])]

theorem margin?_cons {line : List Char} {rest : List (List Char)} (h : isBlankLine line = false) :
    margin? (line :: rest) = Option.merge min (some (indentation line)) (margin? rest) := by
  rw [margin?, List.filter_cons_of_pos (by simp [h]), List.map_cons, List.min?_cons, margin?]
  cases ((rest.filter fun l => !isBlankLine l).map indentation).min? <;> rfl

theorem foldl_narrow (margin : Option Nat) (rest : List (List Char)) :
    rest.foldl narrow margin = Option.merge min margin (margin? rest) := by
  induction rest generalizing margin with
  | nil => cases margin <;> rfl
  | cons line rest ih =>
      rw [List.foldl_cons, ih]
      by_cases h : isBlankLine line = true
      · rw [margin?_cons_blank h, narrow, if_pos (length_strip_eq_zero_iff.mpr h)]
      · rw [margin?_cons (by simpa using h), narrow, if_neg (mt length_strip_eq_zero_iff.mp h), length_strip]
        cases margin <;> cases margin? rest <;> simp [Option.merge, Nat.min_assoc]

/-- A margin is at most the indentation of a line that is not blank. Of a blank line it may take all. -/
theorem drop_margin {m : Nat} {line : List Char} {rest : List (List Char)} (hm : margin? rest = some m)
    (hline : line ∈ rest) : line.drop m = dropMargin m line := by
  rw [dropMargin]
  by_cases hblank : isBlankLine line = true
  · have hall : line.takeWhile Text.isBlank = line := by
      rw [List.takeWhile_eq_self_iff]
      exact List.all_eq_true.mp hblank
    rw [indentation, hall, List.drop_eq_drop_min]
  · have hle : m ≤ indentation line := by
      refine (List.min?_eq_some_iff.mp hm).2 _ (List.mem_map_of_mem ?_)
      exact List.mem_filter.mpr ⟨hline, by simpa using hblank⟩
    rw [Nat.min_eq_left hle]

theorem unindent_eq (lines : List (List Char)) : unindent lines = Docstring.unindent lines := by
  cases lines with
  | nil => rfl
  | cons first rest =>
      have hfold : rest.foldl narrow none = margin? rest := by
        rw [foldl_narrow, Option.merge_none_left]
      rw [unindent, Docstring.unindent, hfold]
      cases hm : margin? rest with
      | none => rfl
      | some m => exact congrArg _ (List.map_congr_left fun line hline => drop_margin hm hline)

theorem trimLines_around {before lines after : List (List Char)} (hbefore : ∀ l ∈ before, isBlankLine l = true)
    (hafter : ∀ l ∈ after, isBlankLine l = true) : trimLines (before ++ lines ++ after) = trimLines lines := by
  have hafter' : ∀ l ∈ after.reverse, isBlankLine l = true := by simpa using hafter
  rw [trimLines, trimLines, List.reverse_append, List.reverse_append, List.dropWhile_append_of_pos hafter',
    List.dropWhile_append]
  split
  · next hempty =>
      have hbefore' : ∀ l ∈ before.reverse, isBlankLine l = true := by simpa using hbefore
      rw [List.dropWhile_eq_nil_iff.mpr hbefore', List.isEmpty_iff.mp hempty]
  · rw [List.reverse_append, List.reverse_reverse, List.dropWhile_append_of_pos hbefore]

theorem trimLines_trim (lines : List (List Char)) : trimLines (trim lines) = trimLines lines := by
  have hempty {l : List Char} (h : l.isEmpty = true) : isBlankLine l = true := by
    rw [List.isEmpty_iff.mp h]
    rfl
  calc trimLines (trim lines)
      = trimLines ((lines.rdropWhile List.isEmpty).takeWhile List.isEmpty ++ trim lines ++ lines.rtakeWhile List.isEmpty) :=
        (trimLines_around (fun _ hl => hempty (List.mem_takeWhile_imp hl))
          fun _ hl => hempty (List.mem_rtakeWhile_imp hl)).symm
    _ = trimLines lines := by
        rw [trim, List.takeWhile_append_dropWhile, List.rdropWhile_append_rtakeWhile]

theorem mem_unindent {lines : List (List Char)} {line : List Char} (h : line ∈ unindent lines) :
    ∃ whole ∈ lines, line ⊆ whole := by
  cases lines with
  | nil => simp [unindent] at h
  | cons first rest =>
      rw [unindent, List.mem_cons] at h
      obtain rfl | h := h
      · exact ⟨first, .head _, List.dropWhile_subset _⟩
      · split at h
        · obtain ⟨whole, hwhole, rfl⟩ := List.mem_map.mp h
          exact ⟨whole, .tail _ hwhole, List.drop_subset _ _⟩
        · exact ⟨line, .tail _ h, List.Subset.refl _⟩

theorem not_mem_of_mem_lines {text line : List Char} (h : line ∈ lines text) : '\n' ∉ line := by
  have hunindent : line ∈ unindent (Text.splitChars '\n' (expandFrom 0 text)) :=
    (List.rdropWhile_prefix _ _).subset (List.dropWhile_subset _ h)
  obtain ⟨whole, hwhole, hsubset⟩ := mem_unindent hunindent
  exact fun hmem => (Text.mem_of_mem_splitChars hwhole (hsubset hmem)).1 rfl

end Cleandoc

theorem trimLines_splitChars_cleandoc (text : String) :
    trimLines (Text.splitChars '\n' (cleandoc text).toList) = trimLines (Cleandoc.lines text.toList) := by
  by_cases hlines : Cleandoc.lines text.toList = []
  · rw [cleandoc, hlines]
    rfl
  · rw [cleandoc, Text.splitChars_joinWith rfl hlines fun line => Cleandoc.not_mem_of_mem_lines]

theorem cleanLines_eq {text : List Char} (hreturn : '\r' ∉ text) :
    cleanLines text = trimLines (Cleandoc.lines text) := by
  rw [cleanLines, Cleandoc.lines, Cleandoc.trimLines_trim, Cleandoc.unindent_eq, Cleandoc.splitChars_expand hreturn]

theorem trimLines_eq_self {lines : List (List Char)} (hfirst : ∀ l ∈ lines.head?, isBlankLine l = false)
    (hlast : ∀ l ∈ lines.getLast?, isBlankLine l = false) : trimLines lines = lines := by
  have hright : (lines.reverse.dropWhile isBlankLine).reverse = lines := by
    refine List.rdropWhile_eq_self_iff.mpr fun hne => ?_
    simp [hlast _ (List.getLast?_eq_some_getLast hne)]
  rw [trimLines, hright, List.dropWhile_eq_self_iff]
  intro hpos
  simp [hfirst lines[0] (by simp [List.head?_eq_getElem?, hpos])]

/-- In a text without carriage returns, the blank lines at both ends are all that `cleandoc` may leave more than
`clean` does. -/
theorem clean_eq_dropBlankEnds_cleandoc (text : String) (hreturn : '\r' ∉ text.toList) :
    clean text = dropBlankEnds (cleandoc text) ∧
      ((∀ l ∈ (Text.splitChars '\n' (cleandoc text).toList).head?, isBlankLine l = false) →
        (∀ l ∈ (Text.splitChars '\n' (cleandoc text).toList).getLast?, isBlankLine l = false) →
          clean text = cleandoc text) := by
  have heq : clean text = dropBlankEnds (cleandoc text) := by
    rw [clean, dropBlankEnds, trimLines_splitChars_cleandoc, cleanLines_eq hreturn]
  refine ⟨heq, fun hfirst hlast => ?_⟩
  rw [heq, dropBlankEnds, trimLines_eq_self hfirst hlast]
  exact String.toList_injective (Text.toList_joinWith_splitChars rfl _)

theorem clean_eq_dropBlankEnds_cleandoc_sample :
    (cleandoc "  Sum.\n\n\tone\n\t two\n\t   " = "Sum.\n\none\n two\n   " ∧
      clean "  Sum.\n\n\tone\n\t two\n\t   " = dropBlankEnds (cleandoc "  Sum.\n\n\tone\n\t two\n\t   ")) ∧
      clean "Sum.\n\tone\n " = cleandoc "Sum.\n\tone\n " := by
  refine ⟨⟨by decide +kernel, (clean_eq_dropBlankEnds_cleandoc _ (by decide)).1⟩, ?_⟩
  exact (clean_eq_dropBlankEnds_cleandoc _ (by decide)).2 (by decide +kernel) (by decide +kernel)

end Scaffold.Docstring
