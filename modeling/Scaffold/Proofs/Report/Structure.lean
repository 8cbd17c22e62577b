import Scaffold.Proofs.Report.Document
import Scaffold.Proofs.Report.Fences
import Scaffold.Proofs.Text.Beginnings
import Scaffold.Proofs.Text.Joining

namespace Scaffold.Report.Markdown

inductive Item where
  | path (path : String)
  | language (language : Language)
  | heading (name : String) (line : Nat)
  | arguments (args : List String)
  | method (name : String) (line : Nat)
  deriving DecidableEq, Repr

def number (cs : List Char) : Nat := Nat.ofDigitChars 10 (cs.filter Char.isDigit) 0

def place (line : List Char) : String × Nat :=
  (String.ofList ((line.takeWhile (· ≠ '(')).filter Text.isNameChar), number (line.dropWhile (· ≠ '(')))

def isListed (c : Char) : Bool := Text.isNameChar c || c = ','

def listed (line : List Char) : List String :=
  if number (line.takeWhile (· ≠ '(')) = 0 then []
  else Text.split ',' (String.ofList (((line.dropWhile (· ≠ '(')).takeWhile (· ≠ ')')).filter isListed))

def item? (line : String) : Option Item :=
  let cs := line.toList
  if ['T', 'h', 'i', 's'].isPrefixOf cs then
    some (.path (String.ofList ((cs.dropWhile (· ≠ '`')).drop 1).dropLast))
  else if ['-', ' ', 'L'].isPrefixOf cs then (Language.ofTag? (String.ofList (cs.drop 12))).map .language
  else if ['-', ' ', '*'].isPrefixOf cs then some (.heading (place cs).1 (place cs).2)
  else if [' ', ' ', '-', ' ', 'A'].isPrefixOf cs then some (.arguments (listed cs))
  else if [' ', ' ', ' ', ' ', '-'].isPrefixOf cs then some (.method (place cs).1 (place cs).2)
  else none

theorem isDigit_of_mem_toString {n : Nat} {c : Char} (hc : c ∈ (toString n).toList) : c.isDigit := by
  rw [Nat.toString_eq_ofList_toDigits, String.toList_ofList] at hc
  exact Nat.isDigit_of_mem_toDigits (by decide) (by decide) hc

theorem number_toString {before after : List Char} (n : Nat) (hbefore : before.any Char.isDigit = false)
    (hafter : after.any Char.isDigit = false) : number (before ++ ((toString n).toList ++ after)) = n := by
  rw [number, List.filter_append, List.filter_append, List.filter_eq_nil_iff.mpr (List.any_eq_false.mp hbefore),
    List.filter_eq_nil_iff.mpr (List.any_eq_false.mp hafter), List.filter_eq_self.mpr fun _ => isDigit_of_mem_toString,
    List.nil_append, List.append_nil, Nat.toString_eq_ofList_toDigits, String.toList_ofList,
    Nat.ofDigitChars_ten_toDigits]

variable {name : String} {line limit : Nat} {f : Signature} {c : ClassOutline} {o : Outline}

theorem place_around {before gap : String} (hbefore : '(' ∉ before.toList)
    (hbeforeName : before.toList.any Text.isNameChar = false) (hgap : '(' ∉ gap.toList)
    (hgapName : gap.toList.any Text.isNameChar = false) (hname : Text.isName name) (line : Nat) :
    place (before ++ (name ++ (gap ++ ("(Line " ++ (toString line ++ ")"))))).toList = (name, line) := by
  have hopen : "(Line ".toList = '(' :: "Line ".toList := rfl
  have hlist : (before ++ (name ++ (gap ++ ("(Line " ++ (toString line ++ ")"))))).toList =
      (before.toList ++ (name.toList ++ gap.toList)) ++
        '(' :: ("Line ".toList ++ ((toString line).toList ++ ")".toList)) := by
    simp only [String.toList_append, hopen, List.append_assoc, List.cons_append]
  have hstop : '(' ∉ before.toList ++ (name.toList ++ gap.toList) := by
    simp only [List.mem_append, not_or]
    exact ⟨hbefore, Text.not_mem_of_isName hname (by decide), hgap⟩
  have hfilter : (before.toList ++ (name.toList ++ gap.toList)).filter Text.isNameChar = name.toList := by
    rw [List.filter_append, List.filter_append, List.filter_eq_nil_iff.mpr (List.any_eq_false.mp hbeforeName),
      List.filter_eq_nil_iff.mpr (List.any_eq_false.mp hgapName),
      List.filter_eq_self.mpr fun _ => Text.isNameChar_of_isName hname, List.nil_append, List.append_nil]
  have hnumber : number ('(' :: ("Line ".toList ++ ((toString line).toList ++ ")".toList))) = line :=
    @number_toString ('(' :: "Line ".toList) ")".toList line (by decide) (by decide)
  rw [place, hlist, Text.takeWhile_until hstop, Text.dropWhile_until hstop, hfilter, hnumber, String.ofList_toList]

/-- What is read after the mark of an item, if neither the mark nor the gap after the name looks like a name. -/
theorem item?_placed {mark gap : String} {item : String → Nat → Item}
    (hitem : ∀ rest, item? (mark ++ rest) =
      some (item (place (mark ++ rest).toList).1 (place (mark ++ rest).toList).2))
    (hmark : '(' ∉ mark.toList ∧ mark.toList.any Text.isNameChar = false)
    (hgap : '(' ∉ gap.toList ∧ gap.toList.any Text.isNameChar = false) (hname : Text.isName name) (line : Nat) :
    item? (mark ++ name ++ (gap ++ "(Line ") ++ toString line ++ ")") = some (item name line) := by
  simp only [String.append_assoc]
  rw [hitem, place_around hmark.1 hmark.2 hgap.1 hgap.2 hname]

theorem item?_heading (hname : Text.isName name) (line : Nat) : item? (heading name line) = some (.heading name line) := by
  have hgap : "** (Line " = "** " ++ "(Line " := rfl
  rw [heading, hgap]
  refine item?_placed (fun rest => ?_) (by decide) (by decide) hname line
  rw [item?, String.toList_append]
  rfl

theorem filter_joinWith {args : List String} (h : ∀ s ∈ args, Text.isName s) :
    (Text.joinWith ", " args).toList.filter isListed = (Text.joinWith "," args).toList := by
  induction args with
  | nil => rfl
  | cons s args ih =>
      have hs : s.toList.filter isListed = s.toList := by
        refine List.filter_eq_self.mpr fun c hc => ?_
        rw [isListed, Text.isNameChar_of_isName (h s (.head _)) hc]
        rfl
      have hcomma : ", ".toList.filter isListed = ",".toList := by decide
      by_cases hargs : args = []
      · subst hargs
        exact hs
      · rw [Text.joinWith_cons _ _ hargs, Text.joinWith_cons _ _ hargs]
        simp only [String.toList_append, List.filter_append, hs, hcomma, ih fun t ht => h t (.tail _ ht)]

theorem listed_arguments {args : List String} (h : ∀ s ∈ args, Text.isName s) {joined : String}
    (hjoined : args ≠ [] → joined = Text.joinWith ", " args) :
    listed ("  - Arguments: " ++ (toString args.length ++ (" (" ++ (joined ++ ")")))).toList = args := by
  have hlist : ("  - Arguments: " ++ (toString args.length ++ (" (" ++ (joined ++ ")")))).toList =
      ("  - Arguments: ".toList ++ ((toString args.length).toList ++ [' '])) ++ '(' :: (joined.toList ++ [')']) := by
    have hopen : " (".toList = [' ', '('] := rfl
    have hclose : ")".toList = [')'] := rfl
    simp only [String.toList_append, hopen, hclose, List.append_assoc, List.cons_append, List.nil_append]
  have hstop : '(' ∉ "  - Arguments: ".toList ++ ((toString args.length).toList ++ [' ']) := by
    simp only [List.mem_append, not_or]
    exact ⟨by decide, fun hc => absurd (isDigit_of_mem_toString hc) (by decide), by decide⟩
  rw [listed, hlist, Text.takeWhile_until hstop, Text.dropWhile_until hstop,
    number_toString args.length (by decide) (by decide)]
  by_cases hargs : args = []
  · rw [hargs]
    rfl
  · obtain rfl := hjoined hargs
    have hend : ')' ∉ '(' :: (Text.joinWith ", " args).toList := by
      rw [List.mem_cons, not_or]
      refine ⟨by decide, fun hmem => ?_⟩
      obtain hmem | ⟨s, hs, hmem⟩ := Text.mem_toList_joinWith hmem
      · exact absurd hmem (by decide)
      · exact Text.not_mem_of_isName (h s hs) (by decide) hmem
    have hcommas : ∀ s ∈ args, ',' ∉ s.toList := fun s hs => Text.not_mem_of_isName (h s hs) (by decide)
    rw [if_neg (by simpa using hargs), ← List.cons_append, Text.takeWhile_until hend,
      List.filter_cons_of_neg (by decide), filter_joinWith h, String.ofList_toList,
      Text.split_joinWith rfl hargs hcommas]

/-- The number of arguments tells none from one of that name. -/
theorem item?_arguments {args : List String} (h : ∀ s ∈ args, Text.isName s) :
    item? ("  - Arguments: " ++ toString args.length ++ " (" ++
      (if args.isEmpty then "none" else Text.joinWith ", " args) ++ ")") = some (.arguments args) := by
  have hitem (rest : String) : item? ("  - Arguments: " ++ rest) =
      some (.arguments (listed ("  - Arguments: " ++ rest).toList)) := by
    rw [item?, String.toList_append]
    rfl
  simp only [String.append_assoc, hitem]
  rw [listed_arguments h fun hargs => if_neg (by simpa using hargs)]

theorem item?_description (text : String) : item? ("  - Description: " ++ text) = none := by
  rw [item?, String.toList_append]
  rfl

theorem item?_methods (n : Nat) : item? ("  - Methods: " ++ toString n) = none := by
  rw [item?, String.toList_append]
  rfl

theorem filterMap_description (limit : Nat) (docstring : Option String) :
    (description limit docstring).filterMap item? = [] := by
  cases docstring with
  | none => rfl
  | some text => simp [description, item?_description]

theorem item?_empty : item? "" = none := rfl

theorem filterMap_functionEntry (limit : Nat) (h : ∀ s ∈ f.name :: f.args, Text.isName s) :
    (functionEntry limit f).filterMap item? = [.heading f.name f.line, .arguments f.args] := by
  have hheading := item?_heading (h f.name (.head _)) f.line
  have harguments := item?_arguments fun s hs => h s (.tail _ hs)
  simp only [functionEntry, List.filterMap_append, filterMap_description, List.filterMap_cons, List.filterMap_nil,
    hheading, harguments, item?_empty, List.cons_append, List.nil_append]

theorem filterMap_classEntry (limit : Nat) (h : ∀ s ∈ c.name :: c.methods.map Signature.name, Text.isName s) :
    (classEntry limit c).filterMap item? =
      .heading c.name c.line :: c.methods.map fun m => .method m.name m.line := by
  have hheading := item?_heading (h c.name (.head _)) c.line
  have hmethods : (c.methods.map fun m => "    - " ++ m.name ++ " (Line " ++ toString m.line ++ ")").filterMap item? =
      c.methods.map fun m => Item.method m.name m.line := by
    rw [List.filterMap_map, ← List.filterMap_eq_map]
    apply List.filterMap_congr
    intro m hm
    have hgap : " (Line " = " " ++ "(Line " := rfl
    rw [Function.comp_apply, Function.comp_apply, hgap]
    refine item?_placed (fun rest => ?_) (by decide) (by decide) (h m.name (.tail _ (List.mem_map_of_mem hm))) m.line
    rw [item?, String.toList_append]
    rfl
  simp only [classEntry, List.filterMap_append, filterMap_description, hmethods, List.filterMap_cons, List.filterMap_nil,
    hheading, item?_methods, item?_empty, List.append_nil, List.cons_append, List.nil_append]

theorem filterMap_listing {α : Type} {title : String} (htitle : item? title = none) {entry : α → List String}
    {items : α → List Item} {as : List α} (h : ∀ a ∈ as, (entry a).filterMap item? = items a) :
    (listing title entry as).filterMap item? = as.flatMap items := by
  cases as with
  | nil => rfl
  | cons a as =>
      change ([title, ""] ++ (a :: as).flatMap entry).filterMap item? = _
      have hhead : [title, ""].filterMap item? = [] := by simp [htitle, item?_empty]
      rw [List.filterMap_append, hhead, List.filterMap_flatMap, List.flatMap_congr h, List.nil_append]

theorem item?_path (path : String) :
    item? ("This report details the test coverage for the source file: `" ++ path ++ "`") = some (.path path) := by
  have hlabel : "This report details the test coverage for the source file: `".toList =
      "This report details the test coverage for the source file: ".toList ++ ['`'] := by decide
  have hticks : '`' ∉ "This report details the test coverage for the source file: ".toList := by decide
  have hend : "`".toList = ['`'] := rfl
  have hline : ("This report details the test coverage for the source file: `" ++ path ++ "`").toList =
      "This report details the test coverage for the source file: ".toList ++ '`' :: (path.toList ++ ['`']) := by
    simp only [String.toList_append, hlabel, hend, List.append_assoc, List.cons_append, List.nil_append]
  have hpath : ((('`' :: (path.toList ++ ['`'])).drop 1).dropLast) = path.toList := by simp
  rw [item?, hline, Text.dropWhile_until hticks, hpath, String.ofList_toList]
  rfl

theorem filterMap_opening (o : Outline) :
    (opening o).filterMap item? = [.path o.path, .language o.language] := by
  have hlanguage (l : Language) : item? ("- Language: " ++ l.tag) = some (.language l) := by
    cases l <;> decide
  have htitle (s : String) : item? ("# Test Report for " ++ s) = none := by
    rw [item?, String.toList_append]
    rfl
  have hfunctions (s : String) : item? ("- Total Functions: " ++ s) = none := by
    rw [item?, String.toList_append]
    rfl
  have hclasses (s : String) : item? ("- Total Classes: " ++ s) = none := by
    rw [item?, String.toList_append]
    rfl
  have hsection : item? "## Source Code Analysis" = none := by decide
  simp only [opening, List.filterMap_cons, List.filterMap_nil, htitle, item?_path, hlanguage, hfunctions, hclasses,
    hsection, item?_empty]

theorem filterMap_closing (o : Outline) : (closing o).filterMap item? = [] := by
  have hremarks : remarks.filterMap item? = [] := by decide
  have hfile (s : String) : item? ("The test file has been generated as: `" ++ s) = none := by
    rw [item?, String.toList_append]
    rfl
  rw [closing_eq, List.filterMap_append, hremarks, String.append_assoc]
  simp only [List.filterMap_cons, List.filterMap_nil, hfile, List.append_nil]

/-- Names and arguments are those of identifiers, and docstrings and the path have no line feeds. -/
structure Regular (o : Outline) : Prop where
  path : Text.OneLine o.path
  functions : ∀ f ∈ o.functions, ∀ s ∈ f.name :: f.args, Text.isName s
  classes : ∀ c ∈ o.classes, ∀ s ∈ c.name :: c.methods.map Signature.name, Text.isName s
  docstrings : ∀ s ∈ o.functions.filterMap (·.docstring) ++ o.classes.filterMap (·.docstring), Text.OneLine s

def reportLines (limit : Nat) (o : Outline) : List String :=
  opening o ++ listing "## Functions Analyzed" (functionEntry limit) o.functions ++
    listing "## Classes Analyzed" (classEntry limit) o.classes ++ closing o

theorem oneLine_of_isName {s : String} (h : Text.isName s) : Text.OneLine s :=
  Text.not_mem_of_isName h (by decide)

theorem oneLine_toString (n : Nat) : Text.OneLine (toString n) :=
  fun hc => absurd (isDigit_of_mem_toString hc) (by decide)

theorem oneLine_description {docstring : Option String} (h : ∀ s ∈ docstring, Text.OneLine s) :
    ∀ l ∈ description limit docstring, Text.OneLine l := by
  cases docstring with
  | none => simp [description]
  | some text =>
      have htext := h text rfl
      have hexcerpt : Text.OneLine (excerpt limit text) := by
        rw [excerpt]
        split
        · exact htext
        · refine Text.oneLine_append (fun hmem => htext ?_) (by decide)
          rw [String.toList_ofList] at hmem
          exact List.mem_of_mem_take hmem
      intro l hl
      obtain rfl := List.mem_singleton.mp hl
      exact Text.oneLine_append (by decide) hexcerpt

theorem oneLine_place {before gap : String} (hbefore : Text.OneLine before) (hgap : Text.OneLine gap)
    (hname : Text.isName name) (line : Nat) : Text.OneLine (before ++ name ++ gap ++ toString line ++ ")") :=
  Text.oneLine_append (Text.oneLine_append (Text.oneLine_append (Text.oneLine_append hbefore
    (oneLine_of_isName hname)) hgap) (oneLine_toString line)) (by decide)

theorem oneLine_functionEntry (h : ∀ s ∈ f.name :: f.args, Text.isName s) (hdocs : ∀ s ∈ f.docstring, Text.OneLine s) :
    ∀ l ∈ functionEntry limit f, Text.OneLine l := by
  intro l hl
  simp only [functionEntry, List.mem_append, List.mem_cons, List.not_mem_nil, or_false] at hl
  obtain (rfl | hl) | rfl | rfl := hl
  · exact oneLine_place (by decide) (by decide) (h f.name (.head _)) f.line
  · exact oneLine_description hdocs l hl
  · have hlisted : Text.OneLine (if f.args.isEmpty then "none" else Text.joinWith ", " f.args) := by
      split
      · decide
      · exact Text.oneLine_joinWith (by decide) fun s hs => oneLine_of_isName (h s (.tail _ hs))
    exact Text.oneLine_append (Text.oneLine_append (Text.oneLine_append (Text.oneLine_append (by decide)
      (oneLine_toString _)) (by decide)) hlisted) (by decide)
  · decide

theorem oneLine_classEntry (h : ∀ s ∈ c.name :: c.methods.map Signature.name, Text.isName s)
    (hdocs : ∀ s ∈ c.docstring, Text.OneLine s) : ∀ l ∈ classEntry limit c, Text.OneLine l := by
  intro l hl
  simp only [classEntry, List.mem_append, List.mem_cons, List.mem_map, List.not_mem_nil, or_false] at hl
  obtain (((rfl | hl) | rfl) | ⟨m, hm, rfl⟩) | rfl := hl
  · exact oneLine_place (by decide) (by decide) (h c.name (.head _)) c.line
  · exact oneLine_description hdocs l hl
  · exact Text.oneLine_append (by decide) (oneLine_toString _)
  · exact oneLine_place (by decide) (by decide) (h m.name (.tail _ (List.mem_map_of_mem hm))) m.line
  · decide

theorem oneLine_listing {α : Type} {title : String} (htitle : Text.OneLine title) {entry : α → List String}
    {as : List α} (h : ∀ a ∈ as, ∀ l ∈ entry a, Text.OneLine l) : ∀ l ∈ listing title entry as, Text.OneLine l := by
  cases as with
  | nil => simp [listing]
  | cons a as =>
      intro l hl
      rw [listing, List.mem_append, List.mem_flatMap] at hl
      · obtain hl | ⟨b, hb, hl⟩ := hl
        · obtain rfl | rfl : l = title ∨ l = "" := by simpa using hl
          · exact htitle
          · decide
        · exact h b hb l hl
      · simp

theorem oneLine_opening (h : Text.OneLine o.path) : ∀ l ∈ opening o, Text.OneLine l := by
  have hname : Text.OneLine ((Path.fileName? o.path).getD o.path) := by
    cases hfile : Path.fileName? o.path with
    | none => exact h
    | some name => exact fun hmem => h (Path.mem_fileName? hfile hmem).2
  have htag : Text.OneLine o.language.tag := by cases o.language <;> decide
  have hfixed : ∀ s ∈ ["# Test Report for ", "This report details the test coverage for the source file: `", "`",
      "## Source Code Analysis", "- Language: ", "- Total Functions: ", "- Total Classes: ", ""], Text.OneLine s := by
    decide
  simp only [List.forall_mem_cons] at hfixed
  obtain ⟨htitle, hpath, hend, hsection, hlanguage, hfunctions, hclasses, hempty, -⟩ := hfixed
  intro l hl
  simp only [opening, List.mem_cons, List.not_mem_nil, or_false] at hl
  obtain rfl | rfl | rfl | rfl | rfl | rfl | rfl | rfl | rfl := hl
  · exact Text.oneLine_append htitle hname
  · exact hempty
  · exact Text.oneLine_append (Text.oneLine_append hpath h) hend
  · exact hempty
  · exact hsection
  · exact Text.oneLine_append hlanguage htag
  · exact Text.oneLine_append hfunctions (oneLine_toString _)
  · exact Text.oneLine_append hclasses (oneLine_toString _)
  · exact hempty

theorem oneLine_closing (h : Text.OneLine o.path) : ∀ l ∈ closing o, Text.OneLine l := by
  have hremarks : ∀ l ∈ remarks, Text.OneLine l := by decide
  have htest : Text.OneLine (Naming.testFile o.path o.language) := by
    intro hmem
    obtain hmem | hmem := Naming.mem_testFile hmem
    · exact absurd hmem (by decide)
    · exact h hmem.2
  intro l hl
  rw [closing_eq, List.mem_append, List.mem_singleton] at hl
  obtain hl | rfl := hl
  · exact hremarks l hl
  · exact Text.oneLine_append (Text.oneLine_append (by decide) htest) (by decide)

theorem oneLine_reportLines (h : Regular o) : ∀ l ∈ reportLines limit o, Text.OneLine l := by
  have hfunction (f : Signature) (hf : f ∈ o.functions) : ∀ l ∈ functionEntry limit f, Text.OneLine l :=
    oneLine_functionEntry (h.functions f hf) fun s hs =>
      h.docstrings s (List.mem_append_left _ (List.mem_filterMap.mpr ⟨f, hf, hs⟩))
  have hclass (c : ClassOutline) (hc : c ∈ o.classes) : ∀ l ∈ classEntry limit c, Text.OneLine l :=
    oneLine_classEntry (h.classes c hc) fun s hs =>
      h.docstrings s (List.mem_append_right _ (List.mem_filterMap.mpr ⟨c, hc, hs⟩))
  simp only [reportLines, List.forall_mem_append]
  exact ⟨⟨⟨oneLine_opening h.path, oneLine_listing (by decide) hfunction⟩, oneLine_listing (by decide) hclass⟩,
    oneLine_closing h.path⟩

theorem split_render (h : Regular o) : Text.split '\n' (render limit o) = reportLines limit o ++ [""] := by
  change Text.split '\n' (Text.lines (reportLines limit o)) = _
  apply Text.split_lines
  · simp [reportLines, opening]
  · exact oneLine_reportLines h

/-- The functions with their arguments, and the classes with their methods. -/
structure Skeleton where
  language : Language
  path : String
  functions : List (String × Nat × List String)
  classes : List (String × Nat × List (String × Nat))
  deriving DecidableEq, Repr

def Skeleton.of (o : Outline) : Skeleton where
  language := o.language
  path := o.path
  functions := o.functions.map fun f => (f.name, f.line, f.args)
  classes := o.classes.map fun c => (c.name, c.line, c.methods.map fun m => (m.name, m.line))

structure Draft where
  skeleton : Skeleton
  args : Option (List String)
  methods : List (String × Nat)

/-- A heading is that of a function if there are arguments below it. -/
def Draft.add (item : Item) (d : Draft) : Draft :=
  match item, d.args with
  | .path path, _ => { d with skeleton.path := path }
  | .language language, _ => { d with skeleton.language := language }
  | .arguments args, _ => { d with args := some args }
  | .method name line, _ => { d with methods := (name, line) :: d.methods }
  | .heading name line, some args =>
    { d with skeleton.functions := (name, line, args) :: d.skeleton.functions, args := none }
  | .heading name line, none =>
    { d with skeleton.classes := (name, line, d.methods) :: d.skeleton.classes, methods := [] }

def skeleton (text : String) : Skeleton :=
  (((Text.split '\n' text).filterMap item?).foldr Draft.add ⟨⟨.unknown, "", [], []⟩, none, []⟩).skeleton

theorem foldr_functions (fs : List Signature) (s : Skeleton) :
    (fs.flatMap fun f => [.heading f.name f.line, .arguments f.args]).foldr Draft.add ⟨s, none, []⟩ =
      ⟨{ s with functions := (fs.map fun f => (f.name, f.line, f.args)) ++ s.functions }, none, []⟩ := by
  induction fs with
  | nil => rfl
  | cons f fs ih =>
      rw [List.flatMap_cons, List.foldr_append, ih]
      rfl

theorem foldr_methods (ms : List Signature) (d : Draft) :
    (ms.map fun m => Item.method m.name m.line).foldr Draft.add d =
      { d with methods := (ms.map fun m => (m.name, m.line)) ++ d.methods } := by
  induction ms with
  | nil => rfl
  | cons m ms ih =>
      rw [List.map_cons, List.foldr_cons, ih]
      rfl

theorem foldr_classes (cs : List ClassOutline) (s : Skeleton) :
    (cs.flatMap fun c => .heading c.name c.line :: c.methods.map fun m => .method m.name m.line).foldr Draft.add
      ⟨s, none, []⟩ =
      ⟨{ s with classes := (cs.map fun c => (c.name, c.line, c.methods.map fun m => (m.name, m.line))) ++ s.classes },
        none, []⟩ := by
  induction cs with
  | nil => rfl
  | cons c cs ih =>
      rw [List.flatMap_cons, List.foldr_append, ih, List.foldr_cons, foldr_methods, List.append_nil]
      rfl

theorem skeleton_render (h : Regular o) : skeleton (render limit o) = .of o := by
  have hempty : [""].filterMap item? = [] := rfl
  rw [skeleton, split_render h, reportLines]
  simp only [List.filterMap_append, filterMap_opening, filterMap_closing, hempty,
    filterMap_listing (show item? "## Functions Analyzed" = none by decide)
      fun f hf => filterMap_functionEntry limit (h.functions f hf),
    filterMap_listing (show item? "## Classes Analyzed" = none by decide)
      fun c hc => filterMap_classEntry limit (h.classes c hc),
    List.append_nil, List.foldr_append, foldr_classes, foldr_functions]
  rfl

/-- Reports that are equal are of files with the same language, path, functions and classes, even if they show
different parts of docstrings. -/
theorem render_determines (limit limit' : Nat) (o o' : Outline) (h : Regular o) (h' : Regular o')
    (heq : render limit o = render limit' o') :
    o.language = o'.language ∧ o.path = o'.path ∧
    (o.functions.map fun f => (f.name, f.line, f.args)) = (o'.functions.map fun f => (f.name, f.line, f.args)) ∧
    (o.classes.map fun c => (c.name, c.line, c.methods.map fun m => (m.name, m.line))) =
      o'.classes.map fun c => (c.name, c.line, c.methods.map fun m => (m.name, m.line)) := by
  have hskeleton : Skeleton.of o = Skeleton.of o' := by
    rw [← skeleton_render h, heq, skeleton_render h']
  simpa only [Skeleton.of, Skeleton.mk.injEq] using hskeleton

def documented (docstring : String) : Outline :=
  ⟨.python, "src/calc.py", [⟨"add", 1, ["none"], some docstring, false⟩, ⟨"reset", 4, [], none, false⟩],
    [⟨"Counter", 7, some "Log.", [⟨"tick", 9, ["self"], none, false⟩]⟩]⟩

theorem regular_documented {docstring : String} (h : Text.OneLine docstring) : Regular (documented docstring) where
  path := show Text.OneLine "src/calc.py" by decide
  functions := by
    have hnames : ∀ s ∈ ["add", "none", "reset"], Text.isName s := by decide
    simpa [documented, and_assoc] using hnames
  classes := by
    have hnames : ∀ s ∈ ["Counter", "tick"], Text.isName s := by decide
    simpa [documented] using hnames
  docstrings := by
    have hlog : Text.OneLine "Log." := by decide
    simpa [documented] using ⟨h, hlog⟩

theorem render_determines_documented :
    Regular (documented "Adds two numbers.") ∧ Regular (documented "Adds...") ∧
      render 4 (documented "Adds two numbers.") = render 7 (documented "Adds...") ∧
      (documented "Adds two numbers.").functions.map (fun f => (f.name, f.line, f.args)) =
        (documented "Adds...").functions.map fun f => (f.name, f.line, f.args) := by
  have h : Regular (documented "Adds two numbers.") := regular_documented (by decide)
  have h' : Regular (documented "Adds...") := regular_documented (by decide)
  have heq : render 4 (documented "Adds two numbers.") = render 7 (documented "Adds...") := by decide +kernel
  obtain ⟨-, -, hfunctions, -⟩ := render_determines 4 7 _ _ h h' heq
  exact ⟨h, h', heq, hfunctions⟩

end Scaffold.Report.Markdown
