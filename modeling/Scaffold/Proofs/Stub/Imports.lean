import Scaffold.Proofs.JavaScript.Sites
import Scaffold.Proofs.Text.Joining
import Scaffold.Stub.Jest

namespace Scaffold

namespace Text

theorem dropWhile_around {p : Char → Bool} {before s after : List Char} (hbefore : ∀ c ∈ before, p c)
    (hne : s ≠ []) (hs : ∀ c ∈ s, p c = false) : (before ++ (s ++ after)).dropWhile p = s ++ after := by
  obtain ⟨c, cs, rfl⟩ := List.exists_cons_of_ne_nil hne
  rw [List.dropWhile_append_of_pos hbefore, List.cons_append, List.dropWhile_cons_of_neg]
  simp [hs c]

theorem trim_around {before s after : String} (hbefore : isBlankText before) (hafter : isBlankText after)
    (hne : s.toList ≠ []) (hs : ∀ c ∈ s.toList, isBlank c = false) : trim (before ++ s ++ after) = s := by
  have hleft : (before.toList ++ (s.toList ++ after.toList)).dropWhile isBlank = s.toList ++ after.toList :=
    dropWhile_around (List.all_eq_true.mp hbefore) hne hs
  have hright : (after.toList.reverse ++ (s.toList.reverse ++ [])).dropWhile isBlank = s.toList.reverse ++ [] := by
    apply dropWhile_around
    · exact fun c hc => List.all_eq_true.mp hafter c (List.mem_reverse.mp hc)
    · simpa using hne
    · exact fun c hc => hs c (List.mem_reverse.mp hc)
  rw [List.append_nil] at hright
  rw [trim, String.toList_append, String.toList_append, List.append_assoc, hleft, List.reverse_append, hright,
    List.reverse_reverse, String.ofList_toList]

end Text

namespace Stub.Jest

def braced (file : String) : String :=
  String.ofList (((file.toList.dropWhile (· ≠ '\x7b')).drop 1).takeWhile (· ≠ '\x7d'))

def importedNames (file : String) : List String :=
  ((Text.split ',' (braced file)).map Text.trim).filter (· ≠ "")

def listing (names : List String) : String :=
  if names.isEmpty then "" else " " ++ Text.joinWith ", " names ++ " "

theorem importLine_eq (module : String) (names : List String) : importLine module names =
    "const \x7b" ++ (listing names ++ ("\x7d" ++ (" = require('./" ++ (module ++ "');")))) := by
  have hclose : "\x7d = require('./" = "\x7d" ++ " = require('./" := rfl
  simp only [importLine, listing, hclose, String.append_assoc]

theorem exists_render_listing (o : Outline) :
    ∃ after, render o = "const \x7b" ++ (listing (o.functions.map (·.name)) ++ ("\x7d" ++ after)) := by
  rw [render, Text.lines, List.append_assoc, List.cons_append, Text.joinWith_cons _ _ (by simp), importLine_eq]
  simp only [String.append_assoc]
  exact ⟨_, rfl⟩

theorem braced_append {listed : String} (h : '\x7d' ∉ listed.toList) (after : String) :
    braced ("const \x7b" ++ (listed ++ ("\x7d" ++ after))) = listed := by
  have hopen : "const \x7b".toList = "const ".toList ++ ['\x7b'] := rfl
  have hclose : "\x7d".toList = ['\x7d'] := rfl
  have hkeyword : "const ".toList.all (fun c => decide (c ≠ '\x7b')) = true := by decide
  have hlisted : ∀ c ∈ listed.toList, decide (c ≠ '\x7d') := by
    intro c hc
    rw [decide_eq_true_eq]
    rintro rfl
    exact h hc
  rw [braced, String.toList_append, hopen, List.append_assoc, List.dropWhile_append_of_pos (List.all_eq_true.mp hkeyword),
    String.toList_append, String.toList_append, hclose]
  simp only [List.singleton_append, ne_eq, not_true_eq_false, decide_false, Bool.false_eq_true, not_false_eq_true,
    List.dropWhile_cons_of_neg, List.drop_succ_cons, List.drop_zero]
  rw [List.takeWhile_append_of_pos hlisted]
  simp

variable {names : List String}

theorem not_mem_of_isName {s : String} (h : JavaScript.isName s) {c : Char}
    (hc : JavaScript.isNamePart c = false) : c ∉ s.toList := by
  intro hmem
  have hpart := (JavaScript.isName_char h).2 c hmem
  rw [hc] at hpart
  cases hpart

theorem not_mem_listing (h : ∀ s ∈ names, JavaScript.isName s) : '\x7d' ∉ (listing names).toList := by
  have hjoined : '\x7d' ∉ (Text.joinWith ", " names).toList := by
    intro hmem
    obtain hmem | ⟨s, hs, hmem⟩ := Text.mem_toList_joinWith hmem
    · exact absurd hmem (by decide)
    · exact not_mem_of_isName (h s hs) (by decide) hmem
  rw [listing]
  split
  · simp
  · simpa using hjoined

theorem trim_name {s : String} (h : JavaScript.isName s) (after : String)
    (hafter : Text.isBlankText after) : Text.trim (" " ++ s ++ after) = s := by
  obtain ⟨hne, hpart⟩ := JavaScript.isName_char h
  refine Text.trim_around (by decide) hafter hne ?_
  intro c hc
  by_contra hblank
  have hapart := (JavaScript.blank_apart (by simpa using hblank)).2.1
  rw [hpart c hc] at hapart
  cases hapart

theorem split_listing (hne : names ≠ []) (h : ∀ s ∈ names, JavaScript.isName s) :
    (Text.split ',' (" " ++ Text.joinWith ", " names ++ " ")).map Text.trim = names := by
  induction names with
  | nil => exact absurd rfl hne
  | cons s names ih =>
      have hs := h s (.head _)
      have hcomma : ',' ∉ s.toList := not_mem_of_isName hs (by decide)
      by_cases hnames : names = []
      · subst hnames
        rw [Text.joinWith, Text.split_eq_singleton (by simpa using hcomma), List.map_singleton,
          trim_name hs " " (by decide)]
      · have hchars : (" " ++ Text.joinWith ", " (s :: names) ++ " ").toList =
            (" " ++ s).toList ++ ',' :: (" " ++ Text.joinWith ", " names ++ " ").toList := by
          rw [Text.joinWith_cons _ _ hnames]
          simp
        have htail := ih hnames fun t ht => h t (.tail _ ht)
        have hhead : Text.splitChars ',' (" " ++ s).toList = [(" " ++ s).toList] :=
          Text.splitChars_eq_singleton (by simpa using hcomma)
        have hname : Text.trim (" " ++ s) = s := by simpa using trim_name hs "" (by decide)
        rw [Text.split, List.map_map] at htail
        rw [Text.split, hchars, Text.splitChars_append_separator, hhead, List.map_map, List.map_append, htail]
        simp [hname]

theorem importedNames_render {o : Outline} (h : ∀ f ∈ o.functions, JavaScript.isName f.name) :
    importedNames (render o) = o.functions.map (·.name) := by
  have hnames : ∀ s ∈ o.functions.map (·.name), JavaScript.isName s := by
    intro s hs
    obtain ⟨f, hf, rfl⟩ := List.mem_map.mp hs
    exact h f hf
  obtain ⟨after, hrender⟩ := exists_render_listing o
  rw [importedNames, hrender, braced_append (not_mem_listing hnames), listing]
  by_cases hne : o.functions.map (·.name) = []
  · rw [hne]
    decide
  · rw [if_neg (by simpa using hne), split_listing hne hnames, List.filter_eq_self]
    intro s hs
    rw [decide_eq_true_eq]
    rintro rfl
    exact (JavaScript.isName_char (hnames _ hs)).1 rfl

/-- The names that the test file of a source brings in are those of its functions, in their order. They differ if
and only if no name but those that are not taken for functions is declared at two places of the source. -/
theorem nodup_importedNames_iff (path text : String) :
    importedNames (render (JavaScript.outline path text).value) =
        (JavaScript.functions text.toList).map (·.name) ∧
      ((importedNames (render (JavaScript.outline path text).value)).Nodup ↔
        ∀ name ∉ JavaScript.builtins, ∀ i j, JavaScript.Declares text.toList i name →
          JavaScript.Declares text.toList j name → i = j) := by
  have hnames : importedNames (render (JavaScript.outline path text).value) =
      (JavaScript.functions text.toList).map (·.name) :=
    importedNames_render fun f hf => JavaScript.isName_of_mem_functions hf
  refine ⟨hnames, ?_⟩
  rw [hnames]
  exact JavaScript.nodup_names_iff

/-- A name that two functions have of their own is brought in twice. -/
theorem importedNames_repeated :
    ¬ ∀ path text, (importedNames (render (JavaScript.outline path text).value)).Nodup := by
  intro h
  have hnodup := h "calc.js" "function f() \x7b const g = () => 1; \x7d\nfunction h() \x7b const g = () => 2; \x7d\n"
  rw [importedNames_render fun f hf => JavaScript.isName_of_mem_functions hf] at hnodup
  exact absurd hnodup (by decide +kernel)

end Stub.Jest

end Scaffold
