import Scaffold.Proofs.Stub.Brackets
import Scaffold.Proofs.Stub.Lines

namespace Scaffold.Stub.Jest

inductive Kind where
  | group
  | test
  deriving DecidableEq, Repr

inductive Suite where
  | node (kind : Kind) (title : String) (members : List Suite)
  deriving Repr

/-- What has been read of a tree: the members of the innermost node, latest first, and the nodes around it with
the members before it. -/
structure Nest where
  members : List Suite
  outer : List (Kind × String × List Suite)

def kind? (line : String) : Option Kind :=
  if Text.begins "describe(" line then some .group
  else if Text.begins "test(" line then some .test
  else none

def title (line : String) : String :=
  String.ofList (((line.toList.dropWhile (· ≠ '\'')).drop 1).takeWhile (· ≠ '\''))

def closes (line : String) : Bool := Text.begins "\x7d);" line

def Nest.next (n : Nest) (line : String) : Option Nest :=
  match kind? line with
  | some kind => some ⟨[], (kind, title line, n.members) :: n.outer⟩
  | none =>
    if !closes line then some n
    else
      match n.outer with
      | [] => none
      | (kind, title, before) :: outer => some ⟨.node kind title n.members.reverse :: before, outer⟩

def suites? (text : String) : Option (List Suite) :=
  ((Text.split '\n' text).foldlM Nest.next ⟨[], []⟩).bind fun n =>
    if n.outer.isEmpty then some n.members.reverse else none

def executeTitle (name : String) : String := "should execute " ++ name ++ " successfully"

def edgeTitle (name : String) : String := "should handle edge cases for " ++ name

def suite (f : Signature) : Suite :=
  .node .group f.name [.node .test (executeTitle f.name) [], .node .test (edgeTitle f.name) []]

def fileLines (o : Outline) : List String :=
  [importLine (Naming.stem o.path) (o.functions.map (·.name)), "",
    "describe('" ++ Naming.stem o.path ++ "', () => \x7b"] ++ o.functions.flatMap functionTests ++ ["\x7d);"]

theorem render_eq (o : Outline) : render o = Text.lines (fileLines o) := rfl

theorem execute_eq (name : String) : "    test('should execute " ++ (name ++ " successfully', () => \x7b") =
    "    test('" ++ (executeTitle name ++ "', () => \x7b") := by
  have hbefore : "    test('should execute " = "    test('" ++ "should execute " := by decide
  have hafter : " successfully', () => \x7b" = " successfully" ++ "', () => \x7b" := by decide
  calc "    test('should execute " ++ (name ++ " successfully', () => \x7b")
      = "    test('" ++ "should execute " ++ (name ++ (" successfully" ++ "', () => \x7b")) :=
        congrArg₂ (· ++ ·) hbefore (congrArg (name ++ ·) hafter)
    _ = "    test('" ++ ("should execute " ++ name ++ " successfully" ++ "', () => \x7b") := by
        rw [String.append_assoc, String.append_assoc, String.append_assoc]

theorem edge_eq (name : String) : "    test('should handle edge cases for " ++ (name ++ "', () => \x7b") =
    "    test('" ++ (edgeTitle name ++ "', () => \x7b") := by
  have hbefore : "    test('should handle edge cases for " = "    test('" ++ "should handle edge cases for " := by decide
  calc "    test('should handle edge cases for " ++ (name ++ "', () => \x7b")
      = "    test('" ++ "should handle edge cases for " ++ (name ++ "', () => \x7b") :=
        congrArg (· ++ (name ++ "', () => \x7b")) hbefore
    _ = "    test('" ++ ("should handle edge cases for " ++ name ++ "', () => \x7b") := by
        rw [String.append_assoc, String.append_assoc]

theorem functionTests_eq (f : Signature) : functionTests f =
    ["  describe('" ++ (f.name ++ "', () => \x7b"),
      "    test('" ++ (executeTitle f.name ++ "', () => \x7b"),
      "      // TODO: Implement actual test for " ++ f.name,
      "      // const result = " ++ (f.name ++ ("(" ++
        (Placeholder.renderArgs Placeholder.javaScriptTrue f.args ++ ");"))),
      "      // expect(result).toBeDefined();",
      "    \x7d);",
      "",
      "    test('" ++ (edgeTitle f.name ++ "', () => \x7b"),
      "      // TODO: Add edge case tests for " ++ f.name,
      "    \x7d);",
      "  \x7d);",
      ""] := by
  have hlines : functionTests f =
      ["  describe('" ++ f.name ++ "', () => \x7b",
        "    test('should execute " ++ f.name ++ " successfully', () => \x7b",
        "      // TODO: Implement actual test for " ++ f.name,
        "      // const result = " ++ f.name ++ "(" ++
          Placeholder.renderArgs Placeholder.javaScriptTrue f.args ++ ");",
        "      // expect(result).toBeDefined();", "    \x7d);", "",
        "    test('should handle edge cases for " ++ f.name ++ "', () => \x7b",
        "      // TODO: Add edge case tests for " ++ f.name, "    \x7d);", "  \x7d);", ""] := rfl
  rw [hlines]
  simp only [String.append_assoc, execute_eq, edge_eq]

/-- The names of a file are those of identifiers, and that of the module has no quotes, brackets or line feeds. -/
structure Regular (o : Outline) : Prop where
  names : ∀ f ∈ o.functions, ∀ s ∈ f.name :: f.args, Text.isName s
  stem : isPlain (Naming.stem o.path)

variable {o : Outline} {f : Signature} {r : Reading} {stack : List Char}

theorem oneLine_fileLines (h : Regular o) : ∀ l ∈ fileLines o, Text.OneLine l := by
  have hstem := oneLine_of_isPlain h.stem
  have hname {f : Signature} (hf : f ∈ o.functions) {s : String} (hs : s ∈ f.name :: f.args) : Text.OneLine s :=
    oneLine_of_isPlain (isPlain_of_isName (h.names f hf s hs))
  have hlisted : Text.OneLine (listing (o.functions.map (·.name))) := by
    rw [listing]
    split
    · decide
    · refine Text.oneLine_append (Text.oneLine_append (by decide) (Text.oneLine_joinWith (by decide) ?_)) (by decide)
      intro s hs
      obtain ⟨f, hf, rfl⟩ := List.mem_map.mp hs
      exact hname hf (.head _)
  intro l hl
  simp only [fileLines, importLine_eq, List.mem_append, List.mem_flatMap, List.mem_cons, List.not_mem_nil, or_false] at hl
  obtain (((rfl | rfl | rfl) | ⟨f, hf, hl⟩) | rfl) := hl
  · simp_all [Text.OneLine]
  · decide
  · simp_all [Text.OneLine]
  · have hf' := hname hf (.head _)
    have htitles : Text.OneLine (executeTitle f.name) ∧ Text.OneLine (edgeTitle f.name) :=
      ⟨Text.oneLine_append (Text.oneLine_append (by decide) hf') (by decide), Text.oneLine_append (by decide) hf'⟩
    have hargs : Text.OneLine (Placeholder.renderArgs Placeholder.javaScriptTrue f.args) :=
      Placeholder.oneLine_renderArgs (by decide) fun a ha => hname hf (.tail _ ha)
    simp only [functionTests_eq, List.mem_cons, List.not_mem_nil, or_false] at hl
    rcases hl with rfl | rfl | rfl | rfl | rfl | rfl | rfl | rfl | rfl | rfl | rfl | rfl
    all_goals simp_all [Text.OneLine]
  · decide

theorem split_render (h : Regular o) : Text.split '\n' (render o) = fileLines o ++ [""] := by
  rw [render_eq]
  apply Text.split_lines
  · simp [fileLines]
  · exact oneLine_fileLines h

def liveTests (f : Signature) : List String :=
  ["  describe('" ++ (f.name ++ "', () => \x7b"),
    "    test('" ++ (executeTitle f.name ++ "', () => \x7b"), "    \x7d);",
    "    test('" ++ (edgeTitle f.name ++ "', () => \x7b"), "    \x7d);", "  \x7d);"]

theorem filter_functionTests (f : Signature) : (functionTests f).filter (Text.isLive "//") = liveTests f := by
  simp (disch := decide) only [functionTests_eq, liveTests, List.filter_cons_of_neg,
    List.filter_cons_of_pos, List.filter_nil, Text.filter_live, Text.filter_comment]

theorem filter_fileLines (o : Outline) : (fileLines o ++ [""]).filter (Text.isLive "//") =
    [importLine (Naming.stem o.path) (o.functions.map (·.name)), "describe('" ++ Naming.stem o.path ++ "', () => \x7b"] ++
      o.functions.flatMap liveTests ++ ["\x7d);"] := by
  have hend : (["\x7d);"] ++ [""]).filter (Text.isLive "//") = ["\x7d);"] := by decide
  rw [fileLines, List.append_assoc, List.append_assoc, List.filter_append, List.filter_append, hend,
    List.filter_flatMap, importLine_eq, String.append_assoc]
  simp (disch := decide) only [Text.filter_live, List.filter_cons_of_neg, List.filter_nil,
    filter_functionTests, List.append_assoc]

section

variable {n : Nest} {before word : String}

theorem title_eq (h : before.toList.dropWhile (· ≠ '\'') = ['\'']) (hword : isPlain word) :
    title (before ++ (word ++ "', () => \x7b")) = word := by
  have hquote : before.toList.any (fun c => !decide (c ≠ '\'')) = true :=
    Text.any_of_dropWhile_ne_nil (by rw [h]; exact List.cons_ne_nil _ _)
  have hplain : '\'' ∉ word.toList := fun hmem => absurd (List.all_eq_true.mp hword _ hmem) (by decide)
  have hend : "', () => \x7b".toList = '\'' :: ", () => \x7b".toList := by decide
  rw [title, String.toList_append, Text.dropWhile_append_of_any hquote, h, String.toList_append, hend]
  change String.ofList ((word.toList ++ '\'' :: ", () => \x7b".toList).takeWhile (· ≠ '\'')) = word
  rw [Text.takeWhile_until hplain, String.ofList_toList]

theorem next_group (hbegins : Text.begins "describe(" before = true)
    (hquote : before.toList.dropWhile (· ≠ '\'') = ['\'']) (hword : isPlain word) :
    n.next (before ++ (word ++ "', () => \x7b")) = some ⟨[], (.group, word, n.members) :: n.outer⟩ := by
  rw [Nest.next, kind?, Text.begins_append hbegins (by decide), title_eq hquote hword]
  rfl

theorem next_test (hparts : Text.parts "describe(" before = true) (hbegins : Text.begins "test(" before = true)
    (hquote : before.toList.dropWhile (· ≠ '\'') = ['\'']) (hword : isPlain word) :
    n.next (before ++ (word ++ "', () => \x7b")) = some ⟨[], (.test, word, n.members) :: n.outer⟩ := by
  rw [Nest.next, kind?, Text.begins_append_of_parts hparts, Text.begins_append hbegins (by decide),
    title_eq hquote hword]
  rfl

theorem next_other (hgroup : Text.parts "describe(" before = true) (htest : Text.parts "test(" before = true)
    (hcloses : Text.parts "\x7d);" before = true) (after : String) : n.next (before ++ after) = some n := by
  rw [Nest.next, kind?, closes, Text.begins_append_of_parts hgroup, Text.begins_append_of_parts htest,
    Text.begins_append_of_parts hcloses]
  rfl

theorem next_fixed {line : String} (hkind : kind? line = none) (hcloses : closes line = false) :
    n.next line = some n := by
  simp [Nest.next, hkind, hcloses]

theorem next_closing {line : String} (hkind : kind? line = none) (hcloses : closes line = true) {kind : Kind}
    {title : String} {members before : List Suite} {outer : List (Kind × String × List Suite)} :
    Nest.next ⟨members, (kind, title, before) :: outer⟩ line =
      some ⟨.node kind title members.reverse :: before, outer⟩ := by
  simp [Nest.next, hkind, hcloses]

end

theorem isPlain_titles {name : String} (hname : isPlain name) : isPlain (executeTitle name) ∧ isPlain (edgeTitle name) :=
  ⟨isPlain_append (isPlain_append (by decide) hname) (by decide), isPlain_append (by decide) hname⟩

theorem next_functionTests (hname : isPlain f.name) (n : Nest) :
    (functionTests f).foldlM Nest.next n = some ⟨suite f :: n.members, n.outer⟩ := by
  obtain ⟨hexecute, hedge⟩ := isPlain_titles hname
  have hgroup (n : Nest) : n.next ("  describe('" ++ (f.name ++ "', () => \x7b")) =
      some ⟨[], (.group, f.name, n.members) :: n.outer⟩ := next_group (by decide) (by decide) hname
  have htest {word : String} (hword : isPlain word) (n : Nest) : n.next ("    test('" ++ (word ++ "', () => \x7b")) =
      some ⟨[], (.test, word, n.members) :: n.outer⟩ := next_test (by decide) (by decide) (by decide) hword
  have hempty (n : Nest) : n.next "" = some n := next_fixed (by decide) (by decide)
  have hassert (n : Nest) : n.next "      // expect(result).toBeDefined();" = some n := next_fixed (by decide) (by decide)
  simp (disch := decide) only [functionTests_eq, List.foldlM_cons, List.foldlM_nil, hgroup,
    htest hexecute, htest hedge, hempty, hassert, next_other, next_closing, Option.bind_eq_bind, Option.bind_some]
  rfl

theorem next_flatMap {fs : List Signature} (h : ∀ f ∈ fs, isPlain f.name) (n : Nest) :
    (fs.flatMap functionTests).foldlM Nest.next n = some ⟨(fs.map suite).reverse ++ n.members, n.outer⟩ := by
  induction fs generalizing n with
  | nil => rfl
  | cons f fs ih =>
      rw [List.flatMap_cons, List.foldlM_append, next_functionTests (h f (.head _)), Option.bind_eq_bind,
        Option.bind_some, ih fun g hg => h g (.tail _ hg)]
      simp

theorem suites?_render (h : Regular o) :
    suites? (render o) = some [.node .group (Naming.stem o.path) (o.functions.map suite)] := by
  have hnames : ∀ f ∈ o.functions, isPlain f.name := fun f hf => isPlain_of_isName (h.names f hf _ (.head _))
  have hgroup (n : Nest) : n.next ("describe('" ++ (Naming.stem o.path ++ "', () => \x7b")) =
      some ⟨[], (.group, Naming.stem o.path, n.members) :: n.outer⟩ := next_group (by decide) (by decide) h.stem
  have hempty (n : Nest) : n.next "" = some n := next_fixed (by decide) (by decide)
  rw [suites?, split_render h, fileLines, importLine_eq]
  simp (disch := decide) only [String.append_assoc, List.foldlM_append, List.foldlM_cons, List.foldlM_nil,
    next_other, hempty, hgroup, next_flatMap hnames, next_closing, Option.bind_eq_bind, Option.bind_some,
    Option.pure_def, List.append_nil, List.reverse_reverse]
  rfl

theorem readLine_plain {line : String} (h : isPlain line) (hback : '\\' ∉ line.toList) (stack : List Char) :
    readLine r ⟨.code, stack⟩ line = some ⟨.code, stack⟩ :=
  readLine_of_run (run_plain h (fun _ => hback) (.inl rfl))

theorem readLine_opening (before : String) {word : String} (stack : List Char) (hcode : Text.parts "//" before = true)
    (hbefore : run r ⟨.code, stack⟩ before = some ⟨inQuotes r, '(' :: stack⟩)
    (hplain : isPlain word) (hescapes : r.escapes → '\\' ∉ word.toList) :
    readLine r ⟨.code, stack⟩ (before ++ (word ++ "', () => \x7b")) = some ⟨.code, '\x7b' :: '(' :: stack⟩ :=
  (readLine_code hcode).trans (run_opening hbefore hplain hescapes)

/-- A commented call has brackets of its own. -/
theorem readLine_call {name : String} (hname : Text.isName name) {args : List String} (hargs : ∀ a ∈ args, Text.isName a)
    (stack : List Char) :
    readLine r ⟨.code, stack⟩ ("      // const result = " ++ (name ++ ("(" ++
      (Placeholder.renderArgs Placeholder.javaScriptTrue args ++ ");")))) = some ⟨.code, stack⟩ := by
  have hback {s : String} (hs : Text.isName s) : '\\' ∉ s.toList := Text.not_mem_of_isName hs (by decide)
  have hresult : run r ⟨.code, stack⟩ "      // const result = " = some ⟨.code, stack⟩ :=
    run_plain (by decide) (fun _ => by decide) (.inl rfl)
  have hcallee : run r ⟨.code, stack⟩ name = some ⟨.code, stack⟩ :=
    run_plain (isPlain_of_isName hname) (fun _ => hback hname) (.inl rfl)
  have hopens : run r ⟨.code, stack⟩ "(" = some ⟨.code, '(' :: stack⟩ := by rcases r with ⟨_, _ | _, _⟩ <;> rfl
  have hcloses : run r ⟨.code, '(' :: stack⟩ ");" = some ⟨.code, stack⟩ := by rcases r with ⟨_, _ | _, _⟩ <;> rfl
  have hplaceholders := run_renderArgs (r := r) (fun a ha => ⟨isPlain_of_isName (hargs a ha), hback (hargs a ha)⟩)
    ('(' :: stack)
  apply readLine_of_run
  simp only [run_append, hresult, hcallee, hopens, hplaceholders, hcloses, Option.bind_some]

theorem not_mem_titles {c : Char} {name : String} (hname : c ∉ name.toList)
    (hfixed : c ∉ "should execute ".toList ∧ c ∉ " successfully".toList ∧ c ∉ "should handle edge cases for ".toList) :
    c ∉ (executeTitle name).toList ∧ c ∉ (edgeTitle name).toList := by
  change c ∉ ("should execute " ++ name ++ " successfully").toList ∧ c ∉ ("should handle edge cases for " ++ name).toList
  simp only [String.toList_append, List.mem_append, hname, hfixed, or_self, not_false_eq_true, and_self]

theorem readLine_functionTests (h : ∀ s ∈ f.name :: f.args, Text.isName s) (stack : List Char) :
    (functionTests f).foldlM (readLine r) ⟨.code, stack⟩ = some ⟨.code, stack⟩ := by
  have hname := h f.name (.head _)
  have hplain := isPlain_of_isName hname
  have hback : '\\' ∉ f.name.toList := Text.not_mem_of_isName hname (by decide)
  obtain ⟨hexecute, hedge⟩ := isPlain_titles hplain
  obtain ⟨hexecuteBack, hedgeBack⟩ := not_mem_titles hback (by decide)
  have hgroup (stack : List Char) := readLine_opening (r := r) "  describe('" stack (by decide)
    (by rcases r with ⟨_, _ | _, _⟩ <;> rfl) hplain fun _ => hback
  have htest {word : String} (hword : isPlain word) (hback : '\\' ∉ word.toList) (stack : List Char) :=
    readLine_opening (r := r) "    test('" stack (by decide)
      (by rcases r with ⟨_, _ | _, _⟩ <;> rfl) hword fun _ => hback
  have hcomment (before : String) (hbefore : isPlain before) (hbeforeBack : '\\' ∉ before.toList) (stack : List Char) :
      readLine r ⟨.code, stack⟩ (before ++ f.name) = some ⟨.code, stack⟩ :=
    readLine_plain (isPlain_append hbefore hplain) (by simp [hbeforeBack, hback]) stack
  have htodo := hcomment "      // TODO: Implement actual test for " (by decide) (by decide)
  have hedgeTodo := hcomment "      // TODO: Add edge case tests for " (by decide) (by decide)
  have hcall := readLine_call (r := r) hname (fun a ha => h a (.tail _ ha))
  have hassert (stack : List Char) : readLine r ⟨.code, stack⟩ "      // expect(result).toBeDefined();" =
      some ⟨.code, stack⟩ := by rcases r with ⟨_ | _, _ | _, _⟩ <;> rfl
  have hempty (stack : List Char) : readLine r ⟨.code, stack⟩ "" = some ⟨.code, stack⟩ :=
    readLine_plain (by decide) (by decide) stack
  have htestEnd (stack : List Char) : readLine r ⟨.code, '\x7b' :: '(' :: stack⟩ "    \x7d);" = some ⟨.code, stack⟩ := by
    rcases r with ⟨_ | _, _ | _, _⟩ <;> rfl
  have hgroupEnd (stack : List Char) : readLine r ⟨.code, '\x7b' :: '(' :: stack⟩ "  \x7d);" = some ⟨.code, stack⟩ := by
    rcases r with ⟨_ | _, _ | _, _⟩ <;> rfl
  simp only [functionTests_eq, List.foldlM_cons, List.foldlM_nil, hgroup, htest hexecute hexecuteBack,
    htest hedge hedgeBack, htodo, hedgeTodo, hcall, hassert, hempty, htestEnd, hgroupEnd, Option.bind_eq_bind,
    Option.bind_some, Option.pure_def]

theorem readLine_flatMap {fs : List Signature} (h : ∀ f ∈ fs, ∀ s ∈ f.name :: f.args, Text.isName s) (stack : List Char) :
    (fs.flatMap functionTests).foldlM (readLine r) ⟨.code, stack⟩ = some ⟨.code, stack⟩ := by
  induction fs with
  | nil => rfl
  | cons f fs ih =>
      rw [List.flatMap_cons, List.foldlM_append, readLine_functionTests (h f (.head _)), Option.bind_eq_bind,
        Option.bind_some]
      exact ih fun g hg => h g (.tail _ hg)

/-- The braces around the names of an import are closed in its line. -/
theorem readLine_importLine {stem : String} {names : List String} (hstem : isPlain stem)
    (hescapes : r.escapes → '\\' ∉ stem.toList) (hnames : ∀ s ∈ names, Text.isName s) (stack : List Char) :
    readLine r ⟨.code, stack⟩ (importLine stem names) = some ⟨.code, stack⟩ := by
  have hname {s : String} (hs : s ∈ names) (stack : List Char) : run r ⟨.code, stack⟩ s = some ⟨.code, stack⟩ :=
    run_plain (isPlain_of_isName (hnames s hs)) (fun _ => Text.not_mem_of_isName (hnames s hs) (by decide)) (.inl rfl)
  have hspace (stack : List Char) : run r ⟨.code, stack⟩ " " = some ⟨.code, stack⟩ :=
    run_plain (by decide) (fun _ => by decide) (.inl rfl)
  have hcomma (stack : List Char) : run r ⟨.code, stack⟩ ", " = some ⟨.code, stack⟩ :=
    run_plain (by decide) (fun _ => by decide) (.inl rfl)
  have hlisting (stack : List Char) : run r ⟨.code, stack⟩ (listing names) = some ⟨.code, stack⟩ := by
    rw [listing]
    split
    · rfl
    · simp only [run_append, hspace, run_joinWith hcomma fun _ => hname, Option.bind_some]
  have hopens : run r ⟨.code, stack⟩ "const \x7b" = some ⟨.code, '\x7b' :: stack⟩ := by
    rcases r with ⟨_, _ | _, _⟩ <;> rfl
  have hcloses : run r ⟨.code, '\x7b' :: stack⟩ "\x7d" = some ⟨.code, stack⟩ := by rcases r with ⟨_, _ | _, _⟩ <;> rfl
  have hrequire : run r ⟨.code, stack⟩ " = require('./" = some ⟨inQuotes r, '(' :: stack⟩ := by
    rcases r with ⟨_, _ | _, _⟩ <;> rfl
  have hmodule : run r ⟨inQuotes r, '(' :: stack⟩ stem = some ⟨inQuotes r, '(' :: stack⟩ :=
    run_plain hstem hescapes (place_inQuotes r _)
  have hend : run r ⟨inQuotes r, '(' :: stack⟩ "');" = some ⟨.code, stack⟩ := by rcases r with ⟨_, _ | _, _⟩ <;> rfl
  rw [importLine_eq, readLine_code (by decide)]
  simp only [run_append, hopens, hlisting, hcloses, hrequire, hmodule, hend, Option.bind_some]

theorem isNested_render (h : Regular o) (hescapes : r.escapes → '\\' ∉ (Naming.stem o.path).toList) :
    IsNested r (render o) := by
  have hnames : ∀ s ∈ o.functions.map (·.name), Text.isName s := by
    intro s hs
    obtain ⟨f, hf, rfl⟩ := List.mem_map.mp hs
    exact h.names f hf _ (.head _)
  have hempty (stack : List Char) : readLine r ⟨.code, stack⟩ "" = some ⟨.code, stack⟩ :=
    readLine_plain (by decide) (by decide) stack
  have hgroup (stack : List Char) := readLine_opening (r := r) "describe('" stack (by decide)
    (by rcases r with ⟨_, _ | _, _⟩ <;> rfl) h.stem hescapes
  have hgroupEnd (stack : List Char) : readLine r ⟨.code, '\x7b' :: '(' :: stack⟩ "\x7d);" = some ⟨.code, stack⟩ := by
    rcases r with ⟨_ | _, _ | _, _⟩ <;> rfl
  rw [IsNested, split_render h, fileLines]
  simp only [String.append_assoc, List.foldlM_append, List.foldlM_cons, List.foldlM_nil,
    readLine_importLine h.stem hescapes hnames, hempty, hgroup, readLine_flatMap h.names, hgroupEnd,
    Option.bind_eq_bind, Option.bind_some, Option.pure_def]

/-- All brackets of a file are nested, with its comments and what stands between quotes, or without; where a
backslash takes the next character with it, the name of the module may not have one. There is one group for the
module, with one group of two tests for each function. What is live is the import and the headings and ends of
these groups and tests. None of it depends on the classes of the source. -/
theorem render_suites (o : Outline) (h : Regular o) :
    (∀ r : Reading, (r.escapes → '\\' ∉ (Naming.stem o.path).toList) → IsNested r (render o)) ∧
    suites? (render o) = some [.node .group (Naming.stem o.path) (o.functions.map fun f =>
      .node .group f.name [.node .test ("should execute " ++ f.name ++ " successfully") [],
        .node .test ("should handle edge cases for " ++ f.name) []])] ∧
    Text.liveLines "//" (render o) =
      [importLine (Naming.stem o.path) (o.functions.map (·.name)),
        "describe('" ++ Naming.stem o.path ++ "', () => \x7b"] ++
      (o.functions.flatMap fun f =>
        ["  describe('" ++ f.name ++ "', () => \x7b",
          "    test('should execute " ++ f.name ++ " successfully', () => \x7b", "    \x7d);",
          "    test('should handle edge cases for " ++ f.name ++ "', () => \x7b", "    \x7d);", "  \x7d);"]) ++
      ["\x7d);"] ∧
    ∀ classes, render { o with classes } = render o := by
  have hlive : liveTests = fun f =>
      ["  describe('" ++ f.name ++ "', () => \x7b",
        "    test('should execute " ++ f.name ++ " successfully', () => \x7b", "    \x7d);",
        "    test('should handle edge cases for " ++ f.name ++ "', () => \x7b", "    \x7d);", "  \x7d);"] := by
    funext f
    simp only [liveTests, String.append_assoc, execute_eq, edge_eq]
  refine ⟨fun r hescapes => isNested_render h hescapes, suites?_render h, ?_, fun _ => rfl⟩
  rw [Text.liveLines, split_render h, filter_fileLines, hlive]

def twoFunctions : Outline :=
  ⟨.javaScript, "web/a\\b.js", [⟨"$load", 3, ["size", "größe"], none, true⟩, ⟨"test_expect", 9, [], none, false⟩],
    [⟨"Queue", 12, none, []⟩]⟩

theorem render_suites_twoFunctions :
    Regular twoFunctions ∧
      IsNested ⟨true, true, false⟩ (render twoFunctions) ∧
      suites? (render twoFunctions) = some [.node .group "a\\b"
        [.node .group "$load" [.node .test "should execute $load successfully" [],
          .node .test "should handle edge cases for $load" []],
        .node .group "test_expect" [.node .test "should execute test_expect successfully" [],
          .node .test "should handle edge cases for test_expect" []]]] ∧
      Text.liveLines "//" (render twoFunctions) =
        ["const \x7b $load, test_expect \x7d = require('./a\\b');", "describe('a\\b', () => \x7b",
          "  describe('$load', () => \x7b", "    test('should execute $load successfully', () => \x7b", "    \x7d);",
          "    test('should handle edge cases for $load', () => \x7b", "    \x7d);", "  \x7d);",
          "  describe('test_expect', () => \x7b", "    test('should execute test_expect successfully', () => \x7b",
          "    \x7d);", "    test('should handle edge cases for test_expect', () => \x7b", "    \x7d);", "  \x7d);",
          "\x7d);"] ∧
      render { twoFunctions with classes := [] } = render twoFunctions := by
  have hregular : Regular twoFunctions := ⟨by decide +kernel, by decide⟩
  obtain ⟨hnested, hsuites, hlive, hclasses⟩ := render_suites twoFunctions hregular
  exact ⟨hregular, hnested _ (by simp), hsuites.trans rfl, hlive.trans (by decide), hclasses []⟩

end Scaffold.Stub.Jest
