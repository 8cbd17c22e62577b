import Scaffold.Text.Identifier
import Scaffold.Text.Split

namespace Scaffold.Text

def isNameChar (c : Char) : Bool := c = '$' || isIdentifierStart c || isIdentifierPart c

def isName (s : String) : Bool := s ≠ "" && s.toList.all isNameChar

theorem isNameChar_of_isName {s : String} (h : isName s) {c : Char} (hc : c ∈ s.toList) : isNameChar c := by
  rw [isName, Bool.and_eq_true] at h
  exact List.all_eq_true.mp h.2 c hc

theorem not_mem_of_isName {s : String} (h : isName s) {c : Char} (hc : isNameChar c = false) : c ∉ s.toList := by
  intro hmem
  rw [isNameChar_of_isName h hmem] at hc
  cases hc

def IsAscii (s : String) : Prop := ∀ c ∈ s.toList, c.toNat < 128

instance (s : String) : Decidable (IsAscii s) := List.decidableBAll _ _

theorem joinWith_cons (separator s : String) {ss : List String} (h : ss ≠ []) :
    joinWith separator (s :: ss) = s ++ separator ++ joinWith separator ss := by
  cases ss with
  | nil => exact absurd rfl h
  | cons t ss => rw [joinWith]

theorem exists_joinWith (separator : String) (ss : List String) (s : String) :
    ∃ before, joinWith separator (ss ++ [s]) = before ++ s := by
  induction ss with
  | nil => exact ⟨"", by simp [joinWith]⟩
  | cons t ss ih =>
      obtain ⟨before, hbefore⟩ := ih
      refine ⟨t ++ separator ++ before, ?_⟩
      rw [List.cons_append, joinWith_cons _ _ (by simp), hbefore, ← String.append_assoc]

theorem mem_toList_joinWith {separator : String} {c : Char} {ss : List String}
    (h : c ∈ (joinWith separator ss).toList) : c ∈ separator.toList ∨ ∃ s ∈ ss, c ∈ s.toList := by
  induction ss with
  | nil => simp [joinWith] at h
  | cons s ss ih =>
      by_cases hss : ss = []
      · subst hss
        exact .inr ⟨s, by simp, h⟩
      · simp only [joinWith_cons _ _ hss, String.toList_append, List.mem_append] at h
        obtain (hs | hseparator) | hjoined := h
        · exact .inr ⟨s, by simp, hs⟩
        · exact .inl hseparator
        · obtain hseparator | ⟨t, ht, hc⟩ := ih hjoined
          · exact .inl hseparator
          · exact .inr ⟨t, by simp [ht], hc⟩

variable {separator : Char}

theorem splitChars_cons {c : Char} (h : c ≠ separator) {cs piece : List Char} {pieces : List (List Char)}
    (hcs : splitChars separator cs = piece :: pieces) :
    splitChars separator (c :: cs) = (c :: piece) :: pieces := by
  rw [splitChars, if_neg h, hcs]

theorem splitChars_append_separator (cs ds : List Char) :
    splitChars separator (cs ++ separator :: ds) = splitChars separator cs ++ splitChars separator ds := by
  induction cs with
  | nil => simp [splitChars]
  | cons c cs ih =>
      by_cases h : c = separator
      · simp [splitChars, h, ih]
      · obtain ⟨piece, pieces, hcs⟩ := List.exists_cons_of_ne_nil (splitChars_ne_nil separator cs)
        rw [List.cons_append, splitChars_cons h (ih.trans (by rw [hcs]; rfl)), splitChars_cons h hcs]
        rfl

theorem splitChars_eq_singleton {cs : List Char} (h : separator ∉ cs) : splitChars separator cs = [cs] := by
  induction cs with
  | nil => rfl
  | cons c cs ih =>
      simp only [List.mem_cons, not_or] at h
      rw [splitChars_cons (Ne.symm h.1) (ih h.2)]

theorem mem_of_mem_splitChars {cs piece : List Char} (hpiece : piece ∈ splitChars separator cs) {c : Char}
    (hc : c ∈ piece) : c ≠ separator ∧ c ∈ cs := by
  induction cs generalizing piece with
  | nil => simp_all [splitChars]
  | cons a cs ih =>
      by_cases ha : a = separator
      · simp only [splitChars, ha, if_true, List.mem_cons] at hpiece
        obtain rfl | hpiece := hpiece
        · simp at hc
        · exact ⟨(ih hpiece hc).1, .tail _ (ih hpiece hc).2⟩
      · obtain ⟨first, rest, hcs⟩ := List.exists_cons_of_ne_nil (splitChars_ne_nil separator cs)
        rw [splitChars_cons ha hcs, List.mem_cons] at hpiece
        obtain rfl | hpiece := hpiece
        · obtain rfl | hc := List.mem_cons.mp hc
          · exact ⟨ha, .head _⟩
          · have hfirst : first ∈ splitChars separator cs := by rw [hcs]; exact .head _
            exact ⟨(ih hfirst hc).1, .tail _ (ih hfirst hc).2⟩
        · have hrest : piece ∈ splitChars separator cs := by rw [hcs]; exact .tail _ hpiece
          exact ⟨(ih hrest hc).1, .tail _ (ih hrest hc).2⟩

theorem splitChars_append {before cs piece : List Char} {pieces : List (List Char)} (h : separator ∉ before)
    (hcs : splitChars separator cs = piece :: pieces) :
    splitChars separator (before ++ cs) = (before ++ piece) :: pieces := by
  induction before with
  | nil => exact hcs
  | cons c before ih =>
      simp only [List.mem_cons, not_or] at h
      exact splitChars_cons (Ne.symm h.1) (ih h.2)

theorem split_eq_singleton {s : String} (h : separator ∉ s.toList) : split separator s = [s] := by
  simp [split, splitChars_eq_singleton h]

theorem mem_of_mem_split {s piece : String} (hpiece : piece ∈ split separator s) {c : Char}
    (hc : c ∈ piece.toList) : c ≠ separator ∧ c ∈ s.toList := by
  obtain ⟨cs, hcs, rfl⟩ := List.mem_map.mp hpiece
  exact mem_of_mem_splitChars hcs (by simpa using hc)

theorem split_joinWith {join : String} (hjoin : join.toList = [separator]) {ss : List String} (hss : ss ≠ [])
    (h : ∀ s ∈ ss, separator ∉ s.toList) : split separator (joinWith join ss) = ss := by
  induction ss with
  | nil => exact absurd rfl hss
  | cons s ss ih =>
      have hs : separator ∉ s.toList := h s (by simp)
      by_cases hrest : ss = []
      · subst hrest
        exact split_eq_singleton hs
      · have htail : split separator (joinWith join ss) = ss := ih hrest fun t ht => h t (by simp [ht])
        rw [split] at htail ⊢
        rw [joinWith_cons _ _ hrest, String.toList_append, String.toList_append, hjoin, List.append_assoc,
          List.singleton_append, splitChars_append_separator, splitChars_eq_singleton hs, List.map_append, htail]
        simp

theorem splitChars_joinWith {join : String} (hjoin : join.toList = [separator]) {ls : List (List Char)} (hls : ls ≠ [])
    (h : ∀ l ∈ ls, separator ∉ l) : splitChars separator (joinWith join (ls.map String.ofList)).toList = ls := by
  have hsplit : split separator (joinWith join (ls.map String.ofList)) = ls.map String.ofList :=
    split_joinWith hjoin (by simpa using hls) (by simpa using h)
  exact (List.map_inj_right fun _ _ => String.ofList_injective).mp hsplit

theorem toList_joinWith_splitChars {join : String} (hjoin : join.toList = [separator]) (cs : List Char) :
    (joinWith join ((splitChars separator cs).map String.ofList)).toList = cs := by
  induction cs with
  | nil => rfl
  | cons c cs ih =>
      obtain ⟨piece, pieces, hcs⟩ := List.exists_cons_of_ne_nil (splitChars_ne_nil separator cs)
      by_cases h : c = separator
      · rw [splitChars, if_pos h, List.map_cons, joinWith_cons _ _ (by simp [hcs])]
        simp [hjoin, ih, h]
      · rw [splitChars_cons h hcs]
        rw [hcs] at ih
        cases pieces with
        | nil => simpa [joinWith] using ih
        | cons next pieces =>
            rw [List.map_cons, joinWith_cons _ _ (by simp)] at ih ⊢
            simpa using ih

theorem joinWith_inj {join : String} (hjoin : join.toList = [separator]) {ss ts : List String} (hss : ss ≠ [])
    (hts : ts ≠ []) (h : ∀ s ∈ ss, separator ∉ s.toList) (h' : ∀ t ∈ ts, separator ∉ t.toList)
    (heq : joinWith join ss = joinWith join ts) : ss = ts := by
  rw [← split_joinWith hjoin hss h, heq, split_joinWith hjoin hts h']

/-- The pieces of a text between the places where a separator stands, found from left to right. Some characters,
those of a separator that was found, are passed over first. -/
def cutAfter (separator : List Char) : Nat → List Char → List (List Char)
  | _, [] => [[]]
  | n + 1, _ :: cs => cutAfter separator n cs
  | 0, c :: cs =>
    if separator <+: c :: cs then [] :: cutAfter separator (separator.length - 1) cs
    else (cutAfter separator 0 cs).modifyHead (c :: ·)

def cut (separator s : String) : List String :=
  (cutAfter separator.toList 0 s.toList).map String.ofList

section Cut

variable {c : Char} {cs : List Char}

theorem cutAfter_length (ds es : List Char) : cutAfter (c :: cs) ds.length (ds ++ es) = cutAfter (c :: cs) 0 es := by
  induction ds with
  | nil => rfl
  | cons d ds ih => exact ih

theorem cutAfter_separator (ds : List Char) : cutAfter (c :: cs) 0 (c :: cs ++ ds) = [] :: cutAfter (c :: cs) 0 ds := by
  rw [List.cons_append, cutAfter, if_pos ⟨ds, rfl⟩, List.length_cons, Nat.add_sub_cancel, cutAfter_length]

/-- A separator is not found before its first character stands there. -/
theorem cutAfter_append {piece : List Char} (h : c ∉ piece) (ds : List Char) :
    cutAfter (c :: cs) 0 (piece ++ ds) = (cutAfter (c :: cs) 0 ds).modifyHead (piece ++ ·) := by
  induction piece with
  | nil => exact (congrFun List.modifyHead_id _).symm
  | cons d piece ih =>
      simp only [List.mem_cons, not_or] at h
      rw [List.cons_append, cutAfter, if_neg, ih h.2, List.modifyHead_modifyHead]
      · rfl
      · exact fun hpre => h.1 (List.cons_prefix_cons.mp hpre).1

theorem cut_joinWith {separator : String} (hseparator : separator.toList = c :: cs) {ss : List String} (hss : ss ≠ [])
    (h : ∀ s ∈ ss, c ∉ s.toList) : cut separator (joinWith separator ss) = ss := by
  rw [cut, hseparator]
  induction ss with
  | nil => exact absurd rfl hss
  | cons s ss ih =>
      have hs : c ∉ s.toList := h s (by simp)
      by_cases hrest : ss = []
      · subst hrest
        have hone : cutAfter (c :: cs) 0 (s.toList ++ []) = (cutAfter (c :: cs) 0 []).modifyHead (s.toList ++ ·) :=
          cutAfter_append hs []
        rw [List.append_nil] at hone
        simp [joinWith, hone, cutAfter]
      · have htail := ih hrest fun t ht => h t (by simp [ht])
        rw [joinWith_cons _ _ hrest, String.toList_append, String.toList_append, hseparator, List.append_assoc,
          cutAfter_append hs, cutAfter_separator]
        simp [htail]

end Cut

example : cut ", " "a,, b, " = ["a,", "b", ""] := by decide

def OneLine (s : String) : Prop := '\n' ∉ s.toList

instance (s : String) : Decidable (OneLine s) := inferInstanceAs (Decidable (¬ _))

theorem oneLine_append {s t : String} (hs : OneLine s) (ht : OneLine t) : OneLine (s ++ t) := by
  intro h
  rw [String.toList_append, List.mem_append] at h
  rcases h with h | h
  · exact hs h
  · exact ht h

theorem oneLine_joinWith {separator : String} (hseparator : OneLine separator) {ss : List String}
    (h : ∀ s ∈ ss, OneLine s) : OneLine (joinWith separator ss) := by
  intro hmem
  obtain hmem | ⟨s, hs, hmem⟩ := mem_toList_joinWith hmem
  · exact hseparator hmem
  · exact h s hs hmem

theorem joinWith_concat (separator : String) {ss : List String} (h : ss ≠ []) (t : String) :
    joinWith separator (ss ++ [t]) = joinWith separator ss ++ separator ++ t := by
  induction ss with
  | nil => exact absurd rfl h
  | cons s ss ih =>
      by_cases hss : ss = []
      · subst hss
        rfl
      · rw [List.cons_append, joinWith_cons _ _ (by simp), ih hss, joinWith_cons _ _ hss]
        simp only [String.append_assoc]

/-- After the last line feed there is one more line, which is empty. -/
theorem split_lines {ls : List String} (hne : ls ≠ []) (h : ∀ l ∈ ls, OneLine l) :
    split '\n' (lines ls) = ls ++ [""] := by
  have hlines : lines ls = joinWith "\n" (ls ++ [""]) := by
    rw [joinWith_concat _ hne, String.append_empty]
    rfl
  rw [hlines]
  apply split_joinWith rfl (by simp)
  intro l hl
  rcases List.mem_append.mp hl with hl | hl
  · exact h l hl
  · obtain rfl := List.mem_singleton.mp hl
    simp

end Scaffold.Text
