import Scaffold.Proofs.Text.Joining
import Scaffold.Stub.Unittest
import Scaffold.Text.Identifier

namespace Scaffold

open Text (OneLine)

/-- The words that a test file takes over: the name of the module, and the names of functions, classes,
methods and parameters. -/
def Outline.words (o : Outline) : List String :=
  Naming.stem o.path :: (o.functions.flatMap fun f => f.name :: f.args) ++
    o.classes.flatMap fun c => c.name :: c.methods.flatMap fun m => m.name :: m.args

namespace Outline

variable {o : Outline}

theorem stem_mem_words : Naming.stem o.path ∈ o.words := by simp [words]

theorem function_mem_words {f : Signature} (hf : f ∈ o.functions) {s : String} (hs : s ∈ f.name :: f.args) :
    s ∈ o.words := by
  have hmem : s ∈ o.functions.flatMap fun f => f.name :: f.args := List.mem_flatMap.mpr ⟨f, hf, hs⟩
  simp only [words, List.mem_append, List.mem_cons]
  exact .inl (.inr hmem)

theorem class_mem_words {c : ClassOutline} (hc : c ∈ o.classes) : c.name ∈ o.words := by
  simp only [words, List.mem_append, List.mem_flatMap]
  exact .inr ⟨c, hc, .head _⟩

theorem method_mem_words {c : ClassOutline} (hc : c ∈ o.classes) {m : Signature} (hm : m ∈ c.methods)
    {s : String} (hs : s ∈ m.name :: m.args) : s ∈ o.words := by
  simp only [words, List.mem_append, List.mem_flatMap]
  exact .inr ⟨c, hc, .tail _ (List.mem_flatMap.mpr ⟨m, hm, hs⟩)⟩

end Outline

namespace Text

def isIdentifier (s : String) : Bool :=
  match s.toList with
  | c :: cs => isIdentifierStart c && cs.all isIdentifierPart
  | [] => false

theorem isIdentifier_char {s : String} (h : isIdentifier s) {c : Char} (hc : c ∈ s.toList) :
    isIdentifierStart c ∨ isIdentifierPart c := by
  rw [isIdentifier] at h
  cases hs : s.toList with
  | nil => simp [hs] at hc
  | cons d cs =>
      simp only [hs, Bool.and_eq_true, List.all_eq_true] at h
      rw [hs] at hc
      rcases List.mem_cons.mp hc with rfl | hc
      · exact .inl h.1
      · exact .inr (h.2 c hc)

theorem not_mem_of_isIdentifier {s : String} (h : isIdentifier s) {c : Char} (hstart : isIdentifierStart c = false)
    (hpart : isIdentifierPart c = false) : c ∉ s.toList := by
  intro hc
  rcases isIdentifier_char h hc with hc | hc
  · simp [hstart] at hc
  · simp [hpart] at hc

theorem oneLine_of_isIdentifier {s : String} (h : isIdentifier s) : OneLine s :=
  not_mem_of_isIdentifier h (by decide) (by decide)

end Text

theorem Text.oneLine_lowerText {s : String} (h : OneLine s) : OneLine (Text.lowerText s) :=
  fun hmem => h (Text.mem_of_mem_lowerText (by decide) hmem)

theorem Naming.mem_of_mem_titleCaseAfter {afterLetter : Bool} {cs : List Char} {c : Char} (hc : c.toNat < 65)
    (h : c ∈ titleCaseAfter afterLetter cs) : c ∈ cs := by
  induction cs generalizing afterLetter with
  | nil => cases h
  | cons d cs ih =>
      rw [titleCaseAfter] at h
      split at h
      · rcases List.mem_append.mp h with h | h
        · have hd : c = d ∨ 65 ≤ c.toNat := by
            split at h
            · exact (Text.eq_or_le_of_mem_lowerCase h).imp_right (by omega)
            · exact Text.eq_or_le_of_mem_upperCase h
          rcases hd with rfl | hle
          · exact .head _
          · omega
        · exact .tail _ (ih h)
      · rcases List.mem_cons.mp h with rfl | h
        · exact .head _
        · exact .tail _ (ih h)

theorem Naming.oneLine_testClass {stem : String} (h : OneLine stem) : OneLine (testClass stem) := by
  apply Text.oneLine_append (by decide)
  intro hmem
  rw [String.toList_ofList, List.mem_filter, titleCase, String.toList_ofList] at hmem
  exact h (mem_of_mem_titleCaseAfter (by decide) hmem.1)

theorem Placeholder.oneLine_renderArgs {trueText : String} (htrue : OneLine trueText) {args : List String}
    (h : ∀ a ∈ args, OneLine a) : OneLine (renderArgs trueText args) := by
  apply Text.oneLine_joinWith (by decide)
  intro s hs
  obtain ⟨a, ha, rfl⟩ := List.mem_map.mp hs
  have haround (before : String) (hbefore : OneLine before) : OneLine (before ++ a ++ "'") :=
    Text.oneLine_append (Text.oneLine_append hbefore (h a ha)) (by decide)
  rw [ofParameter]
  split
  · exact haround "'test_" (by decide)
  · split
    · exact (by decide : OneLine "1")
    · split
      · exact htrue
      · exact haround "'mock_" (by decide)

namespace Stub.Unittest

def fileLines (o : Outline) : List String :=
  header (Naming.stem o.path) ++ o.functions.flatMap (functionTests (Naming.stem o.path)) ++
    (o.classes.flatMap fun c => c.methods.flatMap (methodTest (Naming.stem o.path) c.name)) ++ footer

theorem render_eq (o : Outline) : render o = Text.lines (fileLines o) := rfl

variable {module : String}

theorem functionTests_eq (module : String) (f : Signature) : functionTests module f =
    ["    def test_" ++ f.name ++ "_basic(self):",
      "        # Test basic functionality of " ++ f.name,
      "        # TODO: Implement actual test for " ++ f.name,
      "        # result = " ++ module ++ "." ++ f.name ++ "(" ++
        Placeholder.renderArgs Placeholder.pythonTrue f.args ++ ")",
      "        # self.assertIsNotNone(result)",
      "",
      "    def test_" ++ f.name ++ "_edge_cases(self):",
      "        # Test edge cases for " ++ f.name,
      "        # TODO: Add edge case tests for " ++ f.name,
      ""] := rfl

theorem methodTest_eq (module className : String) (m : Signature) : methodTest module className m =
    ["    def test_" ++ Text.lowerText className ++ "_" ++ m.name ++ "_basic(self):",
      "        # Test basic functionality of " ++ className ++ "." ++ m.name,
      "        instance = " ++ module ++ "." ++ className ++ "()",
      "        # result = instance." ++ m.name ++ "(" ++
        Placeholder.renderArgs Placeholder.pythonTrue m.args ++ ")",
      "        # self.assertIsNotNone(result)",
      ""] := rfl

theorem oneLine_header (h : OneLine module) : ∀ l ∈ header module, OneLine l := by
  have hclass := Naming.oneLine_testClass h
  intro l hl
  simp only [header, List.mem_cons, List.not_mem_nil, or_false] at hl
  rcases hl with rfl | rfl | rfl | rfl | rfl | rfl | rfl | rfl | rfl | rfl
  all_goals simp_all [OneLine]

theorem oneLine_functionTests (hmodule : OneLine module) {f : Signature} (h : ∀ s ∈ f.name :: f.args, OneLine s) :
    ∀ l ∈ functionTests module f, OneLine l := by
  have hname := h f.name (.head _)
  have hargs : OneLine (Placeholder.renderArgs Placeholder.pythonTrue f.args) :=
    Placeholder.oneLine_renderArgs (by decide) fun a ha => h a (.tail _ ha)
  intro l hl
  simp only [functionTests_eq, List.mem_cons, List.not_mem_nil, or_false] at hl
  rcases hl with rfl | rfl | rfl | rfl | rfl | rfl | rfl | rfl | rfl | rfl
  all_goals simp_all [OneLine]

theorem oneLine_methodTest (hmodule : OneLine module) {className : String} (hclass : OneLine className)
    {m : Signature} (h : ∀ s ∈ m.name :: m.args, OneLine s) : ∀ l ∈ methodTest module className m, OneLine l := by
  have hlower := Text.oneLine_lowerText hclass
  have hname := h m.name (.head _)
  have hargs : OneLine (Placeholder.renderArgs Placeholder.pythonTrue m.args) :=
    Placeholder.oneLine_renderArgs (by decide) fun a ha => h a (.tail _ ha)
  intro l hl
  simp only [methodTest_eq, List.mem_cons, List.not_mem_nil, or_false] at hl
  rcases hl with rfl | rfl | rfl | rfl | rfl | rfl
  all_goals simp_all [OneLine]

theorem oneLine_fileLines {o : Outline} (h : ∀ s ∈ o.words, OneLine s) : ∀ l ∈ fileLines o, OneLine l := by
  have hmodule := h _ Outline.stem_mem_words
  intro l hl
  simp only [fileLines, List.mem_append, List.mem_flatMap] at hl
  obtain ((hl | ⟨f, hf, hl⟩) | ⟨c, hc, m, hm, hl⟩) | hl := hl
  · exact oneLine_header hmodule l hl
  · exact oneLine_functionTests hmodule (fun s hs => h s (Outline.function_mem_words hf hs)) l hl
  · exact oneLine_methodTest hmodule (h _ (Outline.class_mem_words hc))
      (fun s hs => h s (Outline.method_mem_words hc hm hs)) l hl
  · revert l
    decide

theorem split_render {o : Outline} (h : ∀ s ∈ o.words, OneLine s) :
    Text.split '\n' (render o) = fileLines o ++ [""] := by
  rw [render_eq]
  apply Text.split_lines
  · simp [fileLines, header]
  · exact oneLine_fileLines h

end Stub.Unittest

end Scaffold
