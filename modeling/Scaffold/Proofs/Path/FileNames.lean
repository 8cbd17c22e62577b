import Scaffold.Proofs.Path.Steps
import Scaffold.Stub.Convention

namespace Scaffold

namespace Path

inductive Lengthens : String → String → Prop
  | slash (before after : String) : Lengthens (before ++ "/" ++ after) (before ++ "//" ++ after)
  | dot (before after : String) : Lengthens (before ++ "/" ++ after) (before ++ "/./" ++ after)
  | closingSlash {path : String} (h : path ≠ "") : Lengthens path (path ++ "/")
  | closingDot {path : String} (h : path ≠ "") : Lengthens path (path ++ "/.")

theorem split_slash (before after : String) :
    Text.split '/' (before ++ "/" ++ after) = Text.split '/' before ++ Text.split '/' after := by
  have hchars : (before ++ "/" ++ after).toList = before.toList ++ '/' :: after.toList := by simp
  rw [Text.split, hchars, Text.splitChars_append_separator, List.map_append]
  rfl

theorem split_closed (path : String) : Text.split '/' (path ++ "/") = Text.split '/' path ++ [""] := by
  have h := split_slash path ""
  rwa [String.append_empty] at h

theorem head?_split_append (path : String) (parts : List String) :
    (Text.split '/' path ++ parts).head? = (Text.split '/' path).head? := by
  obtain ⟨first, rest, hpath⟩ := List.exists_cons_of_ne_nil (Text.splitChars_ne_nil '/' path.toList)
  simp [Text.split, hpath]

/-- What stands after a slash adds its own components, since only the beginning of a path is read in another way. -/
theorem components_slash (before after : String) :
    components (before ++ "/" ++ after) =
      components (before ++ "/") ++ (Text.split '/' after).filterMap ofPart := by
  have habsolute : isAbsolute (before ++ "/" ++ after) = isAbsolute (before ++ "/") := by
    simp only [isAbsolute, String.toList_append, List.append_assoc, List.head?_append]
    rfl
  have hempty : [""].filterMap ofPart = [] := rfl
  rw [components, components, habsolute, split_slash, split_closed]
  simp only [head?_split_append, List.filterMap_append, hempty, List.append_nil, List.append_assoc]

theorem components_closed {path : String} (h : path ≠ "") : components (path ++ "/") = components path := by
  obtain ⟨c, cs, hpath⟩ := List.exists_cons_of_ne_nil (show path.toList ≠ [] by simpa using h)
  have habsolute : isAbsolute (path ++ "/") = isAbsolute path := by simp [isAbsolute, hpath]
  have hempty : [""].filterMap ofPart = [] := rfl
  rw [components, components, habsolute, split_closed]
  simp only [head?_split_append, List.filterMap_append, hempty, List.append_nil]

theorem Lengthens.components_eq {p q : String} (h : Lengthens p q) : components p = components q := by
  cases h with
  | slash before after =>
      have hrest : before ++ "//" ++ after = before ++ "/" ++ ("" ++ "/" ++ after) := by
        apply String.toList_inj.mp
        simp
      have hempty : (Text.split '/' "").filterMap ofPart = [] := rfl
      rw [hrest, components_slash, components_slash, split_slash, List.filterMap_append, hempty, List.nil_append]
  | dot before after =>
      have hrest : before ++ "/./" ++ after = before ++ "/" ++ ("." ++ "/" ++ after) := by
        apply String.toList_inj.mp
        simp
      have hdot : (Text.split '/' ".").filterMap ofPart = [] := rfl
      rw [hrest, components_slash, components_slash, split_slash, List.filterMap_append, hdot, List.nil_append]
  | closingSlash hne => exact (components_closed hne).symm
  | closingDot hne =>
      have hrest : p ++ "/." = p ++ "/" ++ "." := by simp [String.append_assoc]
      have hdot : (Text.split '/' ".").filterMap ofPart = [] := rfl
      rw [hrest, components_slash, hdot, List.append_nil, components_closed hne]

theorem fileName?_congr {p q : String} (h : components p = components q) : fileName? p = fileName? q := by
  rw [fileName?, fileName?, h]

theorem extension?_congr {p q : String} (h : components p = components q) : extension? p = extension? q := by
  rw [extension?, extension?, fileName?_congr h]

theorem splitName_rejoined (name : String) :
    (splitName name).1 ++ (splitName name).2.elim "" ("." ++ ·) = name := by
  simp only [splitName]
  split
  · next after before rest hsplit =>
      split
      · simp
      · have hpieces : Text.splitChars '.' name.toList = (before :: rest).reverse ++ [after] := by
          rw [← List.reverse_cons, ← hsplit, List.reverse_reverse]
        have hjoined : (Text.joinWith "." ((Text.splitChars '.' name.toList).map String.ofList)).toList =
            name.toList := Text.toList_joinWith_splitChars rfl name.toList
        rw [hpieces, List.map_append, List.map_singleton, Text.joinWith_concat _ (by simp)] at hjoined
        rw [Option.elim_some, ← String.append_assoc]
        exact String.toList_inj.mp hjoined
  · simp

theorem exists_fileName {path e : String} (h : extension? path = some e) :
    ∃ name, fileName? path = some name ∧ name = Naming.stem path ++ "." ++ e := by
  obtain ⟨name, hname, he⟩ := Option.bind_eq_some_iff.mp h
  refine ⟨name, hname, ?_⟩
  have hrejoined := splitName_rejoined name
  rw [he, Option.elim_some] at hrejoined
  rw [Naming.stem, stem?, hname, String.append_assoc]
  exact hrejoined.symm

end Path

namespace Naming

variable {p q : String}

theorem outlinedAs?_eq_none_iff (l : Language) : l.outlinedAs? = none ↔ Convention.ofLanguage? l = none := by
  cases l <;> decide

/-- The extension of a source file that tests can be written for is a short one. -/
theorem exists_extension (h : Convention.ofLanguage? (.ofPath p) ≠ none) :
    ∃ e, Path.extension? p = some e ∧ e.toList.length ≤ 2 := by
  rw [Ne, ← outlinedAs?_eq_none_iff, Language.outlinedAs?_ofPath, ← Ne, Option.ne_none_iff_exists'] at h
  obtain ⟨l, hl⟩ := h
  obtain ⟨e, he, hl⟩ := Option.bind_eq_some_iff.mp hl
  refine ⟨e, he, Nat.le_trans (Text.length_le_lowerText e) ?_⟩
  split at hl
  · next hpy => simp [hpy]
  · split at hl
    · next hjs => rcases hjs with hjs | hts <;> simp [*]
    · cases hl

theorem testFile_length {l : Language} (h : Convention.ofLanguage? l ≠ none) :
    (stem p).toList.length + 8 ≤ (testFile p l).toList.length := by
  cases l with
  | python | javaScript | typeScript => simp [testFile]
  | _ => exact absurd rfl h

theorem stem_eq_of_testFile_eq {l : Language} (h : Convention.ofLanguage? l ≠ none)
    (heq : testFile p l = testFile q l) : stem p = stem q := by
  cases l with
  | python | javaScript | typeScript => simpa [testFile] using heq
  | _ => exact absurd rfl h

/-- Whether paths are written with more slashes and dots or with fewer, their components are the same, and so are all
names. A file name is the stem and the extension with a dot between them, and it follows `test_` if the language has
no convention. If it has one, the test file is neither the source file nor the test file for another stem. -/
theorem testFile_of_components (p q : String) :
    (Path.Lengthens p q → Path.components p = Path.components q) ∧
    (Path.components p = Path.components q →
      Language.ofPath p = .ofPath q ∧ stem p = stem q ∧ ∀ l, testFile p l = testFile q l) ∧
    (∀ name, Path.fileName? p = some name →
      stem p ++ (Path.extension? p).elim "" ("." ++ ·) = name ∧
      ∀ l, Convention.ofLanguage? l = none → testFile p l = "test_" ++ name) ∧
    (Convention.ofLanguage? (.ofPath p) ≠ none →
      (∃ name, Path.fileName? p = some name ∧ testFile p (.ofPath p) ≠ name) ∧
      (Language.ofPath q = .ofPath p → stem q ≠ stem p →
        testFile q (.ofPath q) ≠ testFile p (.ofPath p))) := by
  refine ⟨Path.Lengthens.components_eq, fun h => ?_, fun name hname => ?_, fun hconvention => ⟨?_, ?_⟩⟩
  · have hstem : stem p = stem q := by rw [stem, stem, Path.stem?, Path.stem?, Path.fileName?_congr h]
    refine ⟨by rw [Language.ofPath, Language.ofPath, Path.extension?_congr h], hstem, fun l => ?_⟩
    simp only [testFile, hstem, Path.extension?_congr h]
  · have hrejoined : stem p ++ (Path.extension? p).elim "" ("." ++ ·) = name := by
      simpa [stem, Path.stem?, Path.extension?, hname] using Path.splitName_rejoined name
    refine ⟨hrejoined, fun l hl => ?_⟩
    rw [← hrejoined]
    cases l with
    | python | javaScript | typeScript => cases hl
    | _ => cases hextension : Path.extension? p <;> simp [testFile, hextension, String.append_assoc]
  · obtain ⟨e, he, hshort⟩ := exists_extension hconvention
    obtain ⟨name, hname, hparts⟩ := Path.exists_fileName he
    refine ⟨name, hname, fun heq => ?_⟩
    have hlong := testFile_length (p := p) hconvention
    rw [heq, hparts, String.toList_append, String.toList_append, List.length_append, List.length_append] at hlong
    have hdot : ".".toList.length = 1 := rfl
    omega
  · intro hsame hstem heq
    rw [hsame] at heq
    exact hstem (stem_eq_of_testFile_eq hconvention heq)

/-- A name with two dots and an extension in capitals, below a directory with two slashes. -/
theorem testFile_of_components_dotted :
    Path.components "src/my.mod.PY" = Path.components "src//my.mod.PY" ∧
      stem "src/my.mod.PY" = stem "src//my.mod.PY" ∧ testFile "src//my.mod.PY" .go = "test_my.mod.PY" ∧
      testFile "src//my.mod.PY" (.ofPath "src//my.mod.PY") ≠ "my.mod.PY" ∧
      testFile "lib/my.py" (.ofPath "lib/my.py") ≠ testFile "src//my.mod.PY" (.ofPath "src//my.mod.PY") := by
  obtain ⟨hspelled, hsame, -⟩ := testFile_of_components "src/my.mod.PY" "src//my.mod.PY"
  obtain ⟨-, -, hname, hconvention⟩ := testFile_of_components "src//my.mod.PY" "lib/my.py"
  have hcomponents := hspelled (.slash "src" "my.mod.PY")
  have hfile : Path.fileName? "src//my.mod.PY" = some "my.mod.PY" := by decide
  obtain ⟨⟨name, hown, hne⟩, hother⟩ := hconvention (by decide)
  obtain rfl : "my.mod.PY" = name := Option.some.inj (hfile.symm.trans hown)
  exact ⟨hcomponents, (hsame hcomponents).2.1, (hname _ hfile).2 .go rfl, hne, hother (by decide) (by decide)⟩

end Naming

end Scaffold
