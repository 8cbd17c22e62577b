import Mathlib.Data.List.Nodup
import Mathlib.Data.List.Pairwise
import Scaffold.Proofs.Stub.Lines
import Scaffold.Proofs.Text.Beginnings

namespace Scaffold.Stub.Unittest

def definedName? (line : String) : Option String :=
  if "    def ".toList <+: line.toList ∧ "(self):".toList <:+ line.toList then
    some (String.ofList ((line.toList.drop 8).take (line.toList.length - 15)))
  else none

/-- The methods of a file that are run as tests. -/
def testMethods (text : String) : List String :=
  ((Text.split '\n' text).filterMap definedName?).filter fun name => "test".toList.isPrefixOf name.toList

def basicTest (subject : String) : String := "test_" ++ subject ++ "_basic"

def edgeTest (subject : String) : String := "test_" ++ subject ++ "_edge_cases"

def methodSubject (c : ClassOutline) (m : Signature) : String := Text.lowerText c.name ++ "_" ++ m.name

def testNames (o : Outline) : List String :=
  (o.functions.flatMap fun f => [basicTest f.name, edgeTest f.name]) ++
    o.classes.flatMap fun c => c.methods.map fun m => basicTest (methodSubject c m)

theorem definedName?_heading (name : String) : definedName? ("    def " ++ name ++ "(self):") = some name := by
  have hline : ("    def " ++ name ++ "(self):").toList = "    def ".toList ++ name.toList ++ "(self):".toList := by
    rw [String.toList_append, String.toList_append]
  have hbefore : "    def ".toList <+: "    def ".toList ++ name.toList ++ "(self):".toList := by
    rw [List.append_assoc]
    exact List.prefix_append _ _
  rw [definedName?, hline, if_pos ⟨hbefore, List.suffix_append _ _⟩, List.append_assoc]
  have hdrop : ("    def ".toList ++ (name.toList ++ "(self):".toList)).drop 8 = name.toList ++ "(self):".toList :=
    List.drop_left' (by rfl)
  have hsize : ("    def ".toList ++ (name.toList ++ "(self):".toList)).length - 15 = name.toList.length := by
    rw [List.length_append, List.length_append]
    change 8 + (name.toList.length + 7) - 15 = _
    omega
  rw [hdrop, hsize, List.take_left, String.ofList_toList]

theorem definedName?_eq_none {before : String}
    (h : ("    def ".toList.zip before.toList).any (fun p => p.1 ≠ p.2) = true) (after : String) :
    definedName? (before ++ after) = none := by
  rw [definedName?, if_neg]
  rintro ⟨hbegins, -⟩
  rw [String.toList_append] at hbegins
  obtain ⟨p, hp, hne⟩ := List.any_eq_true.mp h
  simp [Text.eq_of_mem_zip_of_begins hbegins p hp] at hne

theorem definedName?_basicTest (subject : String) :
    definedName? ("    def test_" ++ (subject ++ "_basic(self):")) = some (basicTest subject) := by
  rw [← definedName?_heading, basicTest]
  simp only [String.append_assoc]
  rfl

theorem definedName?_edgeTest (subject : String) :
    definedName? ("    def test_" ++ (subject ++ "_edge_cases(self):")) = some (edgeTest subject) := by
  rw [← definedName?_heading, edgeTest]
  simp only [String.append_assoc]
  rfl

theorem definedName?_methodTest (c : ClassOutline) (m : Signature) :
    definedName? ("    def test_" ++ (Text.lowerText c.name ++ ("_" ++ (m.name ++ "_basic(self):")))) =
      some (basicTest (methodSubject c m)) := by
  rw [← definedName?_basicTest, methodSubject]
  simp only [String.append_assoc]

theorem definedNames_header (module : String) : (header module).filterMap definedName? = ["setUp"] := by
  have hsetUp : definedName? "    def setUp(self):" = some "setUp" := by decide
  have hothers : ∀ line ∈ ["import unittest", "from unittest.mock import Mock, patch", "",
      "        # Setup code for tests", "        pass"], definedName? line = none := by decide
  simp only [List.forall_mem_cons] at hothers
  simp (disch := decide) only [header, String.append_assoc, List.filterMap_cons, List.filterMap_nil,
    definedName?_eq_none, hsetUp, hothers]

theorem definedNames_functionTests (module : String) (f : Signature) :
    (functionTests module f).filterMap definedName? = [basicTest f.name, edgeTest f.name] := by
  have hassert : definedName? "        # self.assertIsNotNone(result)" = none := by decide
  have hempty : definedName? "" = none := by decide
  simp (disch := decide) only [functionTests_eq, String.append_assoc, List.filterMap_cons, List.filterMap_nil,
    definedName?_basicTest, definedName?_edgeTest, definedName?_eq_none, hassert, hempty]

theorem definedNames_methodTest (module : String) (c : ClassOutline) (m : Signature) :
    (methodTest module c.name m).filterMap definedName? = [basicTest (methodSubject c m)] := by
  have hassert : definedName? "        # self.assertIsNotNone(result)" = none := by decide
  have hempty : definedName? "" = none := by decide
  simp (disch := decide) only [methodTest_eq, String.append_assoc, List.filterMap_cons, List.filterMap_nil,
    definedName?_methodTest, definedName?_eq_none, hassert, hempty]

theorem definedNames_fileLines (o : Outline) : (fileLines o).filterMap definedName? = "setUp" :: testNames o := by
  have hfooter : footer.filterMap definedName? = [] := by decide
  simp only [fileLines, testNames, List.filterMap_append, List.filterMap_flatMap, definedNames_header,
    definedNames_functionTests, definedNames_methodTest, hfooter, ← List.map_eq_flatMap, List.append_nil,
    List.append_assoc, List.singleton_append]

theorem test_prefix_of_mem_testNames {o : Outline} {name : String} (h : name ∈ testNames o) :
    "test".toList <+: name.toList := by
  have hbegins (text : String) : "test".toList <+: ("test_" ++ text).toList := by
    rw [String.toList_append]
    exact ⟨'_' :: text.toList, rfl⟩
  simp only [testNames, List.mem_append, List.mem_flatMap, List.mem_map, List.mem_cons, List.not_mem_nil,
    or_false] at h
  obtain ⟨f, -, rfl | rfl⟩ | ⟨c, -, m, -, rfl⟩ := h
  · rw [basicTest, String.append_assoc]
    exact hbegins _
  · rw [edgeTest, String.append_assoc]
    exact hbegins _
  · rw [basicTest, String.append_assoc]
    exact hbegins _

theorem testMethods_render {o : Outline} (h : ∀ s ∈ o.words, Text.OneLine s) : testMethods (render o) = testNames o := by
  have hempty : [""].filterMap definedName? = [] := by decide
  have hsetUp : "test".toList.isPrefixOf "setUp".toList = false := by decide
  rw [testMethods, split_render h, List.filterMap_append, definedNames_fileLines, hempty, List.append_nil,
    List.filter_cons, hsetUp]
  apply List.filter_eq_self.mpr
  intro name hname
  exact List.isPrefixOf_iff_prefix.mpr (test_prefix_of_mem_testNames hname)

theorem basicTest_inj {s t : String} : basicTest s = basicTest t ↔ s = t := by
  rw [basicTest, basicTest, String.append_left_inj, String.append_right_inj]

theorem edgeTest_inj {s t : String} : edgeTest s = edgeTest t ↔ s = t := by
  rw [edgeTest, edgeTest, String.append_left_inj, String.append_right_inj]

/-- The two kinds of tests differ in their last letter. -/
theorem basicTest_ne_edgeTest (s t : String) : basicTest s ≠ edgeTest t := by
  intro h
  have hlast := congrArg (fun name => name.toList.getLast?) h
  simp only [basicTest, edgeTest, String.toList_append, List.getLast?_append] at hlast
  change some 'c' = some 's' at hlast
  exact absurd hlast (by decide)

theorem nodup_functionNames {fs : List Signature} (h : (fs.map (·.name)).Nodup) :
    (fs.flatMap fun f => [basicTest f.name, edgeTest f.name]).Nodup := by
  rw [List.nodup_flatMap]
  constructor
  · intro f _
    simp [basicTest_ne_edgeTest]
  · apply (List.pairwise_map.mp h).imp
    intro f g hne
    simp [Function.onFun, basicTest_inj, edgeTest_inj, basicTest_ne_edgeTest, (basicTest_ne_edgeTest _ _).symm,
      hne.symm]

theorem methodSubject_inj {c : ClassOutline} {m m' : Signature} :
    methodSubject c m = methodSubject c m' ↔ m.name = m'.name := by
  rw [methodSubject, methodSubject, String.append_right_inj]

theorem nodup_methodNames_iff {cs : List ClassOutline} (hclasses : (cs.map (·.name)).Nodup)
    (hmethods : ∀ c ∈ cs, (c.methods.map (·.name)).Nodup) :
    (cs.flatMap fun c => c.methods.map fun m => basicTest (methodSubject c m)).Nodup ↔
      ∀ c ∈ cs, ∀ c' ∈ cs, c.name ≠ c'.name → ∀ m ∈ c.methods, ∀ m' ∈ c'.methods,
        methodSubject c m ≠ methodSubject c' m' := by
  have hdisjoint (c c' : ClassOutline) :
      (c.methods.map fun m => basicTest (methodSubject c m)).Disjoint
          (c'.methods.map fun m => basicTest (methodSubject c' m)) ↔
        ∀ m ∈ c.methods, ∀ m' ∈ c'.methods, methodSubject c m ≠ methodSubject c' m' := by
    constructor
    · intro h m hm m' hm' heq
      apply h (List.mem_map_of_mem hm)
      rw [heq]
      exact List.mem_map_of_mem hm'
    · intro h name hname hname'
      obtain ⟨m, hm, rfl⟩ := List.mem_map.mp hname
      obtain ⟨m', hm', heq⟩ := List.mem_map.mp hname'
      exact h m hm m' hm' (basicTest_inj.mp heq).symm
  have hown : ∀ c ∈ cs, (c.methods.map fun m => basicTest (methodSubject c m)).Nodup := by
    intro c hc
    apply List.pairwise_map.mpr
    apply (List.pairwise_map.mp (hmethods c hc)).imp
    intro m m' hne heq
    exact hne (methodSubject_inj.mp (basicTest_inj.mp heq))
  rw [List.nodup_flatMap]
  constructor
  · rintro ⟨-, hpairwise⟩ c hc c' hc' hne
    have hsymm : Std.Symm (Function.onFun List.Disjoint fun c : ClassOutline =>
        c.methods.map fun m => basicTest (methodSubject c m)) := ⟨fun _ _ h _ ha hb => h hb ha⟩
    rw [← hdisjoint]
    exact hpairwise.forall hc hc' fun heq => hne (congrArg ClassOutline.name heq)
  · intro h
    refine ⟨hown, (List.pairwise_map.mp hclasses).imp_of_mem ?_⟩
    intro c c' hc hc' hne
    exact (hdisjoint c c').mpr (h c hc c' hc' hne)

theorem nodup_testNames_iff {o : Outline} (hfunctions : (o.functions.map (·.name)).Nodup)
    (hclasses : (o.classes.map (·.name)).Nodup) (hmethods : ∀ c ∈ o.classes, (c.methods.map (·.name)).Nodup) :
    (testNames o).Nodup ↔
      (∀ f ∈ o.functions, ∀ c ∈ o.classes, ∀ m ∈ c.methods, f.name ≠ methodSubject c m) ∧
      ∀ c ∈ o.classes, ∀ c' ∈ o.classes, c.name ≠ c'.name → ∀ m ∈ c.methods, ∀ m' ∈ c'.methods,
        methodSubject c m ≠ methodSubject c' m' := by
  rw [testNames, List.nodup_append', nodup_methodNames_iff hclasses hmethods]
  constructor
  · rintro ⟨-, hpairs, hdisjoint⟩
    refine ⟨?_, hpairs⟩
    intro f hf c hc m hm heq
    apply hdisjoint (List.mem_flatMap.mpr ⟨f, hf, .head _⟩)
    rw [heq]
    exact List.mem_flatMap.mpr ⟨c, hc, List.mem_map_of_mem hm⟩
  · rintro ⟨hapart, hpairs⟩
    refine ⟨nodup_functionNames hfunctions, hpairs, ?_⟩
    intro name hname hname'
    obtain ⟨f, hf, hname⟩ := List.mem_flatMap.mp hname
    obtain ⟨c, hc, hname'⟩ := List.mem_flatMap.mp hname'
    obtain ⟨m, hm, rfl⟩ := List.mem_map.mp hname'
    simp only [List.mem_cons, List.not_mem_nil, or_false] at hname
    rcases hname with heq | heq
    · exact hapart f hf c hc m hm (basicTest_inj.mp heq).symm
    · exact basicTest_ne_edgeTest _ _ heq

/-- The tests of a file have the names `test_…_basic` and `test_…_edge_cases` of its functions, and the names
`test_…_basic` of its methods. Where functions, classes and the methods of each class have names that differ,
two tests have one name if and only if a function is named like a class in lower case with an underscore and a
method of it, or two classes are so with methods of theirs. -/
theorem nodup_testMethods_iff {o : Outline} (hfunctions : (o.functions.map (·.name)).Nodup)
    (hclasses : (o.classes.map (·.name)).Nodup) (hmethods : ∀ c ∈ o.classes, (c.methods.map (·.name)).Nodup) :
    ((∀ s ∈ o.words, Text.OneLine s) → testMethods (render o) = testNames o) ∧
    ((testNames o).Nodup ↔
      (∀ f ∈ o.functions, ∀ c ∈ o.classes, ∀ m ∈ c.methods, f.name ≠ methodSubject c m) ∧
      ∀ c ∈ o.classes, ∀ c' ∈ o.classes, c.name ≠ c'.name → ∀ m ∈ c.methods, ∀ m' ∈ c'.methods,
        methodSubject c m ≠ methodSubject c' m') :=
  ⟨testMethods_render, nodup_testNames_iff hfunctions hclasses hmethods⟩

def twoClasses : Outline :=
  ⟨.python, "calc.py", [⟨"rename", 1, ["new_name"], none, false⟩],
    [⟨"Counter", 4, none, [⟨"rename", 5, ["new_name"], none, false⟩, ⟨"reset", 8, [], none, false⟩]⟩,
      ⟨"Timer", 11, none, [⟨"rename", 12, ["new_name"], none, false⟩]⟩]⟩

theorem nodup_testMethods_twoClasses :
    (∀ c ∈ twoClasses.classes, (c.methods.map (·.name)).Nodup) ∧
      testMethods (render twoClasses) = ["test_rename_basic", "test_rename_edge_cases",
        "test_counter_rename_basic", "test_counter_reset_basic", "test_timer_rename_basic"] ∧
      (testNames twoClasses).Nodup := by
  have hmethods : ∀ c ∈ twoClasses.classes, (c.methods.map (·.name)).Nodup := by decide
  obtain ⟨hread, hnodup⟩ := nodup_testMethods_iff (o := twoClasses) (by decide) (by decide) hmethods
  exact ⟨hmethods, hread (by decide +kernel), hnodup.mpr (by decide +kernel)⟩

/-- A function that is named like a class and its method takes the name of the test for the method. -/
theorem testMethods_repeated :
    ¬ ∀ o : Outline, (o.functions.map (·.name)).Nodup → (o.classes.map (·.name)).Nodup →
      (∀ c ∈ o.classes, (c.methods.map (·.name)).Nodup) → (testMethods (render o)).Nodup := by
  intro h
  have hnodup := h ⟨.python, "calc.py", [⟨"counter_rename", 1, ["counter", "new_name"], none, false⟩],
    [⟨"Counter", 5, none, [⟨"rename", 6, ["new_name"], none, false⟩]⟩]⟩ (by decide) (by decide) (by decide)
  rw [testMethods_render (by decide +kernel)] at hnodup
  exact absurd hnodup (by decide +kernel)

end Scaffold.Stub.Unittest
