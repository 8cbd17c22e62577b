import Scaffold.Proofs.Docstring.Cleandoc

namespace Scaffold.Docstring

def nested (k : Nat) (text : String) : String :=
  .ofList (text.toList.flatMap fun c => if c = '\n' then '\n' :: List.replicate k ' ' else [c])

theorem splitChars_nested {k : Nat} {cs line : List Char} {rest : List (List Char)}
    (h : Text.splitChars '\n' cs = line :: rest) :
    Text.splitChars '\n' (cs.flatMap fun c => if c = '\n' then '\n' :: List.replicate k ' ' else [c]) =
      line :: rest.map (List.replicate k ' ' ++ ·) := by
  induction cs generalizing line rest with
  | nil =>
      obtain ⟨rfl, rfl⟩ : [] = line ∧ [] = rest := by simpa [Text.splitChars] using h
      rfl
  | cons c cs ih =>
      obtain ⟨piece, pieces, hcs⟩ := List.exists_cons_of_ne_nil (Text.splitChars_ne_nil '\n' cs)
      rw [List.flatMap_cons]
      by_cases hnewline : c = '\n'
      · subst hnewline
        rw [Text.splitChars, if_pos rfl, hcs] at h
        obtain ⟨rfl, rfl⟩ := List.cons.inj h
        rw [if_pos rfl, List.cons_append, Text.splitChars, if_pos rfl,
          Text.splitChars_append (by simp [List.mem_replicate]) (ih hcs)]
        rfl
      · rw [Text.splitChars_cons hnewline hcs] at h
        obtain ⟨rfl, rfl⟩ := List.cons.inj h
        rw [if_neg hnewline]
        exact Text.splitChars_cons hnewline (ih hcs)

theorem expandTabsFrom_blanks (k column : Nat) (line : List Char) :
    expandTabsFrom column (List.replicate k ' ' ++ line) =
      List.replicate k ' ' ++ expandTabsFrom (column + k) line := by
  induction k generalizing column with
  | zero => rfl
  | succ k ih =>
      rw [List.replicate_succ, List.cons_append, expandTabsFrom, if_neg (by decide), ih, List.cons_append,
        Nat.add_assoc, Nat.add_comm 1 k]

theorem expandTabsFrom_add {k : Nat} (hk : 8 ∣ k) (column : Nat) (line : List Char) :
    expandTabsFrom (column + k) line = expandTabsFrom column line := by
  induction line generalizing column with
  | nil => rfl
  | cons c line ih =>
      have hmod : (column + k) % 8 = column % 8 := by omega
      rw [expandTabsFrom, expandTabsFrom, hmod]
      dsimp only
      rw [Nat.add_right_comm column k 1, Nat.add_right_comm column k, ih, ih]

theorem expandTabsFrom_of_not_mem {line : List Char} (h : '\t' ∉ line) (column : Nat) :
    expandTabsFrom column line = line := by
  induction line generalizing column with
  | nil => rfl
  | cons c line ih =>
      simp only [List.mem_cons, not_or] at h
      rw [expandTabsFrom, if_neg (Ne.symm h.1), ih h.2]

/-- A line keeps its tab stops if it has none or if they are moved by as many columns as lie between two of them. -/
theorem expandTabs_blanks {k : Nat} {line : List Char} (h : 8 ∣ k ∨ '\t' ∉ line) :
    expandTabs (List.replicate k ' ' ++ line) = List.replicate k ' ' ++ expandTabs line := by
  rw [expandTabs, expandTabsFrom_blanks, expandTabs]
  congr 1
  obtain hk | hline := h
  · exact expandTabsFrom_add hk 0 line
  · rw [expandTabsFrom_of_not_mem hline, expandTabsFrom_of_not_mem hline]

theorem isBlankLine_append {blanks : List Char} (h : ∀ c ∈ blanks, Text.isBlank c = true) (line : List Char) :
    isBlankLine (blanks ++ line) = isBlankLine line := by
  rw [isBlankLine, List.all_append, List.all_eq_true.mpr h, Bool.true_and, isBlankLine]

theorem indentation_append {blanks : List Char} (h : ∀ c ∈ blanks, Text.isBlank c = true) (line : List Char) :
    indentation (blanks ++ line) = blanks.length + indentation line := by
  rw [indentation, List.takeWhile_append_of_pos h, List.length_append, indentation]

theorem isBlank_of_mem_replicate {k : Nat} {c : Char} (h : c ∈ List.replicate k ' ') : Text.isBlank c = true := by
  rw [List.eq_of_mem_replicate h]
  rfl

theorem isBlankLine_blanks (k : Nat) (line : List Char) :
    isBlankLine (List.replicate k ' ' ++ line) = isBlankLine line :=
  isBlankLine_append (fun _ => isBlank_of_mem_replicate) line

theorem indentation_blanks (k : Nat) (line : List Char) :
    indentation (List.replicate k ' ' ++ line) = k + indentation line := by
  rw [indentation_append fun _ => isBlank_of_mem_replicate, List.length_replicate]

theorem margin?_blanks (k : Nat) (lines : List (List Char)) :
    margin? (lines.map (List.replicate k ' ' ++ ·)) = (margin? lines).map (k + ·) := by
  induction lines with
  | nil => rfl
  | cons line lines ih =>
      rw [List.map_cons]
      cases hblank : isBlankLine line with
      | true =>
          rw [Cleandoc.margin?_cons_blank hblank, Cleandoc.margin?_cons_blank (by rwa [isBlankLine_blanks]), ih]
      | false =>
          rw [Cleandoc.margin?_cons hblank, Cleandoc.margin?_cons (by rwa [isBlankLine_blanks]), ih,
            indentation_blanks]
          cases margin? lines with
          | none => rfl
          | some m => exact congrArg some (Nat.add_min_add_left k _ _)

/-- A blank line may be shorter than the margin, and so may it be with the blanks before it and before the others. -/
theorem dropMargin_blanks (k m : Nat) (line : List Char) :
    dropMargin (k + m) (List.replicate k ' ' ++ line) = dropMargin m line := by
  rw [dropMargin, indentation_blanks, Nat.add_min_add_left, List.drop_append, List.length_replicate,
    Nat.add_sub_cancel_left, List.drop_replicate]
  simp [dropMargin]

theorem margin?_eq_none_iff {lines : List (List Char)} :
    margin? lines = none ↔ ∀ line ∈ lines, isBlankLine line = true := by
  rw [margin?, List.min?_eq_none_iff, List.map_eq_nil_iff, List.filter_eq_nil_iff]
  simp

/-- Without a margin all lines after the first are blank, and then none of them is left. -/
theorem trimLines_unindent_blanks (k : Nat) (first : List Char) (rest : List (List Char)) :
    trimLines (unindent (first :: rest.map (List.replicate k ' ' ++ ·))) = trimLines (unindent (first :: rest)) := by
  have hmargin := margin?_blanks k rest
  rw [unindent, unindent]
  cases hm : margin? rest with
  | some m =>
      have hdrop : (rest.map (List.replicate k ' ' ++ ·)).map (dropMargin (k + m)) = rest.map (dropMargin m) := by
        rw [List.map_map]
        exact List.map_congr_left fun line _ => dropMargin_blanks k m line
      rw [hmargin, hm]
      exact congrArg (fun lines => trimLines (_ :: lines)) hdrop
  | none =>
      have hrest := margin?_eq_none_iff.mp hm
      have hblanks := margin?_eq_none_iff.mp (hmargin.trans (by rw [hm]; rfl))
      rw [hmargin, hm]
      have htrim (lines : List (List Char)) (h : ∀ line ∈ lines, isBlankLine line = true) :
          trimLines ([] ++ [first.dropWhile Text.isBlank] ++ lines) = trimLines [first.dropWhile Text.isBlank] :=
        Cleandoc.trimLines_around (List.forall_mem_nil _) h
      exact (htrim _ hblanks).trans (htrim _ hrest).symm

/-- Docstrings do not depend on the indentation of the code around them. -/
theorem clean_nested {k : Nat} (text : String)
    (h : 8 ∣ k ∨ ∀ line ∈ (Text.splitChars '\n' text.toList).tail, '\t' ∉ line) :
    clean (nested k text) = clean text := by
  obtain ⟨first, rest, hlines⟩ := List.exists_cons_of_ne_nil (Text.splitChars_ne_nil '\n' text.toList)
  rw [hlines, List.tail_cons] at h
  have hexpand : (rest.map (List.replicate k ' ' ++ ·)).map expandTabs =
      (rest.map expandTabs).map (List.replicate k ' ' ++ ·) := by
    rw [List.map_map, List.map_map]
    refine List.map_congr_left fun line hline => expandTabs_blanks ?_
    exact h.imp_right fun hrest => hrest line hline
  rw [clean, clean, cleanLines, cleanLines, nested, String.toList_ofList, splitChars_nested hlines, hlines,
    List.map_cons, List.map_cons, hexpand, trimLines_unindent_blanks]

/-- Blanks of any number before lines without tabs, and eight before lines with them: the tab of the second line ends
at the column where its blanks do, and the third line is blank and shorter than the margin. -/
theorem clean_nested_sample :
    (clean (nested 3 "\tSum.\n  one\n\n    two\n ") = clean "\tSum.\n  one\n\n    two\n " ∧
      clean "\tSum.\n  one\n\n    two\n " = "Sum.\none\n\n  two") ∧
    (clean (nested 8 "Sum.\n  \tone\n   \n\t two") = clean "Sum.\n  \tone\n   \n\t two" ∧
      clean "Sum.\n  \tone\n   \n\t two" = "Sum.\none\n\n two") := by
  refine ⟨⟨clean_nested _ (.inr (by decide +kernel)), by decide +kernel⟩, ?_, by decide +kernel⟩
  exact clean_nested _ (.inl (by decide))

end Scaffold.Docstring
