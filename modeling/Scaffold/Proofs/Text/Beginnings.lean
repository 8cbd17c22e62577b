import Mathlib.Data.List.TakeWhile
import Scaffold.Text.Character
import Scaffold.Text.Split

namespace Scaffold.Text

def begins (word line : String) : Bool := word.toList.isPrefixOf (line.toList.dropWhile isBlank)

def isLive (mark line : String) : Bool := !isBlankText line && !begins mark line

def liveLines (mark text : String) : List String := (split '\n' text).filter (isLive mark)

/-- Whether a word and the beginning of a line differ in a character that both have. -/
def parts (word line : String) : Bool :=
  (word.toList.zip (line.toList.dropWhile isBlank)).any fun p => p.1 ≠ p.2

theorem dropWhile_append_of_any {p : Char → Bool} {s : List Char} (h : s.any (fun c => !p c) = true)
    (t : List Char) : (s ++ t).dropWhile p = s.dropWhile p ++ t := by
  rw [List.dropWhile_append, if_neg]
  intro hempty
  obtain ⟨c, hc, hp⟩ := List.any_eq_true.mp h
  have hall := List.dropWhile_eq_nil_iff.mp (List.isEmpty_iff.mp hempty) c hc
  simp [hall] at hp

theorem any_of_dropWhile_ne_nil {p : Char → Bool} {s : List Char} (h : s.dropWhile p ≠ []) :
    s.any (fun c => !p c) = true := by
  by_contra hnone
  simp only [Bool.not_eq_true, List.any_eq_false, Bool.not_eq_true', Bool.not_eq_false] at hnone
  exact h (List.dropWhile_eq_nil_iff.mpr hnone)

section

variable {stop : Char} {cs : List Char}

theorem ne_of_not_mem (h : stop ∉ cs) : ∀ c ∈ cs, decide (c ≠ stop) = true := by
  intro c hc
  rw [decide_eq_true_eq]
  rintro rfl
  exact h hc

theorem takeWhile_until (h : stop ∉ cs) (after : List Char) : (cs ++ stop :: after).takeWhile (· ≠ stop) = cs := by
  rw [List.takeWhile_append_of_pos (ne_of_not_mem h), List.takeWhile_cons_of_neg (by simp), List.append_nil]

theorem dropWhile_until (h : stop ∉ cs) (after : List Char) :
    (cs ++ stop :: after).dropWhile (· ≠ stop) = stop :: after := by
  rw [List.dropWhile_append_of_pos (ne_of_not_mem h), List.dropWhile_cons_of_neg (by simp)]

end

theorem eq_of_mem_zip_of_begins {s t u : List Char} (h : s <+: t ++ u) : ∀ p ∈ s.zip t, p.1 = p.2 := by
  induction s generalizing t with
  | nil => simp
  | cons c s ih =>
      cases t with
      | nil => simp
      | cons d t =>
          rw [List.cons_append, List.cons_prefix_cons] at h
          intro p hp
          rw [List.zip_cons_cons, List.mem_cons] at hp
          rcases hp with rfl | hp
          · exact h.1
          · exact ih h.2 p hp

variable {word before : String}

theorem begins_append (h : begins word before = true) (hword : word ≠ "") (after : String) :
    begins word (before ++ after) = true := by
  rw [begins, List.isPrefixOf_iff_prefix] at h
  have hne : before.toList.dropWhile isBlank ≠ [] := by
    intro hnil
    rw [hnil, List.prefix_nil] at h
    exact hword (String.toList_eq_nil_iff.mp h)
  rw [begins, List.isPrefixOf_iff_prefix, String.toList_append,
    dropWhile_append_of_any (any_of_dropWhile_ne_nil hne)]
  exact h.trans (List.prefix_append _ _)

theorem begins_append_of_parts (h : parts word before = true) (after : String) :
    begins word (before ++ after) = false := by
  obtain ⟨p, hp, hne⟩ := List.any_eq_true.mp h
  have hblank : before.toList.dropWhile isBlank ≠ [] := by
    rintro hnil
    simp [hnil] at hp
  rw [begins, Bool.eq_false_iff, ne_eq, List.isPrefixOf_iff_prefix, String.toList_append,
    dropWhile_append_of_any (any_of_dropWhile_ne_nil hblank)]
  intro hbegins
  simp [eq_of_mem_zip_of_begins hbegins p hp] at hne

theorem isBlankText_append_of_parts (h : parts word before = true) (after : String) :
    isBlankText (before ++ after) = false := by
  obtain ⟨p, hp, -⟩ := List.any_eq_true.mp h
  have hblank : before.toList.dropWhile isBlank ≠ [] := by
    rintro hnil
    simp [hnil] at hp
  obtain ⟨c, hc, hc'⟩ := List.any_eq_true.mp (any_of_dropWhile_ne_nil hblank)
  rw [isBlankText, List.all_eq_false]
  exact ⟨c, by simp [hc], by simpa using hc'⟩

variable {mark after : String} {rest : List String}

theorem filter_live (h : parts mark before = true) :
    ((before ++ after) :: rest).filter (isLive mark) = (before ++ after) :: rest.filter (isLive mark) := by
  apply List.filter_cons_of_pos
  rw [isLive, isBlankText_append_of_parts h, begins_append_of_parts h]
  rfl

theorem filter_comment (h : begins mark before = true) (hmark : mark ≠ "") :
    ((before ++ after) :: rest).filter (isLive mark) = rest.filter (isLive mark) := by
  apply List.filter_cons_of_neg
  simp [isLive, begins_append h hmark]

end Scaffold.Text
