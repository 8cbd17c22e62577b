import Scaffold.Proofs.Path.Steps
import Scaffold.Report.Markdown

namespace Scaffold.Report

/-- How often three backticks stand in a text one after the other, from its beginning and without
overlaps. -/
def fences : List Char → Nat
  | [] => 0
  | '`' :: '`' :: '`' :: cs => fences cs + 1
  | _ :: cs => fences cs

def fencesIn (s : String) : Nat := fences s.toList

def fencesAmong : List String → Nat
  | [] => 0
  | s :: ss => fencesIn s + fencesAmong ss

@[simp] theorem fencesIn_empty : fencesIn "" = 0 := rfl

@[simp] theorem fencesAmong_nil : fencesAmong [] = 0 := rfl

@[simp] theorem fencesAmong_cons (s : String) (ss : List String) :
    fencesAmong (s :: ss) = fencesIn s + fencesAmong ss := rfl

@[simp] theorem fencesAmong_append (ss ts : List String) :
    fencesAmong (ss ++ ts) = fencesAmong ss + fencesAmong ts := by
  induction ss with
  | nil => simp
  | cons s ss ih => simp [ih, Nat.add_assoc]

theorem fences_cons {c : Char} (h : c ≠ '`') (cs : List Char) : fences (c :: cs) = fences cs := by
  rw [fences]
  intro _ hc
  exact absurd hc h

/-- A fence does not reach over a character that is no backtick. -/
theorem fences_append_cons {c : Char} (h : c ≠ '`') (s t : List Char) :
    fences (s ++ c :: t) = fences s + fences t := by
  fun_induction fences s with
  | case1 => rw [List.nil_append, fences_cons h, Nat.zero_add]
  | case2 s ih =>
      rw [List.cons_append, List.cons_append, List.cons_append, fences, ih]
      omega
  | case3 d s hnot ih =>
      have hfence (u : List Char) (hd : d = '`') (hu : s ++ c :: t = '`' :: '`' :: u) : False := by
        match s, hu with
        | [], hu => exact h (List.cons.inj hu).1
        | [_], hu => exact h (List.cons.inj (List.cons.inj hu).2).1
        | x :: y :: s, hu =>
            obtain ⟨hx, hu⟩ := List.cons.inj hu
            obtain ⟨hy, -⟩ := List.cons.inj hu
            exact hnot s hd (by rw [hx, hy])
      rw [List.cons_append, ← ih, fences]
      exact hfence

theorem fences_eq_zero {s : List Char} (h : '`' ∉ s) : fences s = 0 := by
  induction s with
  | nil => rfl
  | cons c s ih =>
      rw [List.mem_cons, not_or] at h
      rw [fences_cons (Ne.symm h.1), ih h.2]

theorem fences_plain_append {before : List Char} (h : '`' ∉ before) (s : List Char) :
    fences (before ++ s) = fences s := by
  induction before with
  | nil => rfl
  | cons c before ih =>
      rw [List.mem_cons, not_or] at h
      rw [List.cons_append, fences_cons (Ne.symm h.1), ih h.2]

theorem fences_append_plain (s : List Char) {after : List Char} (h : '`' ∉ after) :
    fences (s ++ after) = fences s := by
  cases after with
  | nil => rw [List.append_nil]
  | cons c after =>
      rw [List.mem_cons, not_or] at h
      rw [fences_append_cons (Ne.symm h.1), fences_eq_zero h.2, Nat.add_zero]

theorem fencesIn_around {before after : String} (hbefore : '`' ∉ before.toList)
    (hafter : '`' ∉ after.toList) (s : String) : fencesIn (before ++ s ++ after) = fencesIn s := by
  rw [fencesIn, String.toList_append, String.toList_append, fences_append_plain _ hafter,
    fences_plain_append hbefore, fencesIn]

theorem fencesIn_after {before : String} (hbefore : '`' ∉ before.toList) (s : String) :
    fencesIn (before ++ s) = fencesIn s := by
  rw [fencesIn, String.toList_append, fences_plain_append hbefore, fencesIn]

theorem fencesIn_eq_zero {s : String} (h : '`' ∉ s.toList) : fencesIn s = 0 := fences_eq_zero h

/-- The separator begins with something else than a backtick, so that no fence reaches over it. -/
theorem fencesIn_joinWith {separator : String} {c : Char} {cs : List Char}
    (hseparator : separator.toList = c :: cs) (hplain : '`' ∉ separator.toList) (ss : List String) :
    fencesIn (Text.joinWith separator ss) = fencesAmong ss := by
  induction ss with
  | nil => rfl
  | cons s ss ih =>
      by_cases hss : ss = []
      · simp [hss, Text.joinWith]
      · rw [hseparator, List.mem_cons, not_or] at hplain
        rw [Text.joinWith_cons _ _ hss, fencesAmong_cons, ← ih, fencesIn, String.toList_append,
          String.toList_append, hseparator, List.append_assoc, List.cons_append,
          fences_append_cons (Ne.symm hplain.1), fences_plain_append hplain.2]
        rfl

theorem fencesAmong_flatMap {α : Type} {f g : α → List String} {as : List α}
    (h : ∀ a ∈ as, fencesAmong (f a) = fencesAmong (g a)) :
    fencesAmong (as.flatMap f) = fencesAmong (as.flatMap g) := by
  induction as with
  | nil => rfl
  | cons a as ih =>
      simp [h a (by simp), ih fun b hb => h b (by simp [hb])]

theorem fencesAmong_map {α : Type} {f g : α → String} (h : ∀ a, fencesIn (f a) = fencesIn (g a))
    (as : List α) : fencesAmong (as.map f) = fencesAmong (as.map g) := by
  induction as with
  | nil => rfl
  | cons a as ih => simp [h, ih]

theorem not_mem_toString (n : Nat) : '`' ∉ (toString n).toList := by
  rw [Nat.toString_eq_ofList_toDigits, String.toList_ofList]
  intro h
  exact absurd (Nat.isDigit_of_mem_toDigits (by decide) (by decide) h) (by decide)

theorem not_mem_tag (l : Language) : '`' ∉ l.tag.toList := by
  cases l <;> decide

theorem fencesIn_count {label : String} (h : '`' ∉ label.toList) (n : Nat) :
    fencesIn (label ++ toString n) = 0 := by
  rw [fencesIn_after h]
  exact fencesIn_eq_zero (not_mem_toString n)

/-- A text in backticks can make a fence together with them. -/
theorem fencesIn_ticked {label before : String} (hlabel : label = before ++ "`")
    (h : '`' ∉ before.toList) (s : String) : fencesIn (label ++ s ++ "`") = fencesIn ("`" ++ s ++ "`") := by
  rw [hlabel, String.append_assoc, String.append_assoc, fencesIn_after h, ← String.append_assoc]

namespace Markdown

/-- The texts that a report takes over, in their order. Two of them stand in backticks. -/
def inserted (limit : Nat) (o : Outline) : List String :=
  [(Path.fileName? o.path).getD o.path, "`" ++ o.path ++ "`"] ++
    (o.functions.flatMap fun f => f.name :: (f.docstring.toList.map (excerpt limit) ++ f.args)) ++
    (o.classes.flatMap fun c =>
      c.name :: (c.docstring.toList.map (excerpt limit) ++ c.methods.map Signature.name)) ++
    ["`" ++ Naming.testFile o.path o.language ++ "`"]

theorem fencesIn_heading (name : String) (line : Nat) : fencesIn (heading name line) = fencesIn name := by
  have hline : '`' ∉ ("** (Line " ++ toString line ++ ")").toList := by
    simp only [String.toList_append, List.mem_append, not_or]
    exact ⟨⟨by decide, not_mem_toString line⟩, by decide⟩
  have h := fencesIn_around (show '`' ∉ "- **".toList by decide) hline name
  rw [← h, heading]
  simp only [String.append_assoc]

theorem fencesAmong_description (limit : Nat) (docstring : Option String) :
    fencesAmong (description limit docstring) = fencesAmong (docstring.toList.map (excerpt limit)) := by
  cases docstring with
  | none => rfl
  | some text =>
      have h := fencesIn_after (show '`' ∉ "  - Description: ".toList by decide) (excerpt limit text)
      simp [description, h]

theorem fencesAmong_functionEntry (limit : Nat) (f : Signature) :
    fencesAmong (functionEntry limit f) =
      fencesAmong (f.name :: (f.docstring.toList.map (excerpt limit) ++ f.args)) := by
  have hargs : fencesIn (if f.args.isEmpty then "none" else Text.joinWith ", " f.args) =
      fencesAmong f.args := by
    split
    · next hempty =>
      rw [List.isEmpty_iff.mp hempty]
      rfl
    · exact fencesIn_joinWith (show ", ".toList = ',' :: [' '] by rfl) (by decide) f.args
  have hcount : '`' ∉ ("  - Arguments: " ++ toString f.args.length ++ " (").toList := by
    simp only [String.toList_append, List.mem_append, not_or]
    exact ⟨⟨by decide, not_mem_toString _⟩, by decide⟩
  have hline := fencesIn_around hcount (show '`' ∉ ")".toList by decide)
    (if f.args.isEmpty then "none" else Text.joinWith ", " f.args)
  simp only [functionEntry, fencesAmong_append, fencesAmong_cons, fencesAmong_nil, fencesIn_empty,
    fencesIn_heading, fencesAmong_description, hline, hargs]
  omega

theorem fencesAmong_classEntry (limit : Nat) (c : ClassOutline) :
    fencesAmong (classEntry limit c) =
      fencesAmong (c.name :: (c.docstring.toList.map (excerpt limit) ++ c.methods.map Signature.name)) := by
  have hcount := fencesIn_count (show '`' ∉ "  - Methods: ".toList by decide) c.methods.length
  have hmethod (m : Signature) :
      fencesIn ("    - " ++ m.name ++ " (Line " ++ toString m.line ++ ")") = fencesIn m.name := by
    have hline : '`' ∉ (" (Line " ++ toString m.line ++ ")").toList := by
      simp only [String.toList_append, List.mem_append, not_or]
      exact ⟨⟨by decide, not_mem_toString m.line⟩, by decide⟩
    rw [← fencesIn_around (show '`' ∉ "    - ".toList by decide) hline m.name]
    simp only [String.append_assoc]
  simp only [classEntry, fencesAmong_append, fencesAmong_cons, fencesAmong_nil, fencesIn_empty,
    fencesIn_heading, fencesAmong_description, hcount, fencesAmong_map hmethod c.methods]
  omega

theorem fencesAmong_listing {α : Type} {title : String} (htitle : '`' ∉ title.toList)
    (entry : α → List String) (as : List α) :
    fencesAmong (listing title entry as) = fencesAmong (as.flatMap entry) := by
  cases as with
  | nil => rfl
  | cons a as => simp [listing, fencesIn_eq_zero htitle]

theorem fencesAmong_opening (o : Outline) :
    fencesAmong (opening o) = fencesAmong [(Path.fileName? o.path).getD o.path, "`" ++ o.path ++ "`"] := by
  have htitle := fencesIn_after (show '`' ∉ "# Test Report for ".toList by decide)
    ((Path.fileName? o.path).getD o.path)
  have hpath := fencesIn_ticked
    (show "This report details the test coverage for the source file: `" =
      "This report details the test coverage for the source file: " ++ "`" by rfl) (by decide +kernel) o.path
  have hlanguage : fencesIn ("- Language: " ++ o.language.tag) = 0 := by
    rw [fencesIn_after (show '`' ∉ "- Language: ".toList by decide)]
    exact fencesIn_eq_zero (not_mem_tag o.language)
  have hfunctions := fencesIn_count (show '`' ∉ "- Total Functions: ".toList by decide) o.functions.length
  have hclasses := fencesIn_count (show '`' ∉ "- Total Classes: ".toList by decide) o.classes.length
  have hsection : fencesIn "## Source Code Analysis" = 0 := fencesIn_eq_zero (by decide)
  simp only [opening, fencesAmong_cons, fencesAmong_nil, fencesIn_empty, htitle, hpath, hlanguage,
    hfunctions, hclasses, hsection, Nat.zero_add, Nat.add_zero]

def remarks : List String := (closing ⟨.unknown, "", [], []⟩).dropLast

theorem closing_eq (o : Outline) :
    closing o = remarks ++
      ["The test file has been generated as: `" ++ Naming.testFile o.path o.language ++ "`"] := rfl

theorem fencesAmong_closing (o : Outline) :
    fencesAmong (closing o) = fencesIn ("`" ++ Naming.testFile o.path o.language ++ "`") := by
  have hfile := fencesIn_ticked
    (show "The test file has been generated as: `" = "The test file has been generated as: " ++ "`" by rfl)
    (by decide +kernel) (Naming.testFile o.path o.language)
  have hremarks : fencesAmong remarks = 0 := by decide +kernel
  rw [closing_eq, fencesAmong_append, hremarks, Nat.zero_add, fencesAmong_cons, hfile, fencesAmong_nil,
    Nat.add_zero]

theorem fencesIn_render (limit : Nat) (o : Outline) :
    fencesIn (render limit o) = fencesAmong (inserted limit o) := by
  rw [render, Text.lines, fencesIn, String.toList_append,
    fences_append_plain _ (show '`' ∉ "\n".toList by decide), ← fencesIn,
    fencesIn_joinWith (show "\n".toList = '\n' :: [] by rfl) (by decide)]
  simp only [fencesAmong_append, fencesAmong_opening, fencesAmong_closing, inserted,
    fencesAmong_listing (show '`' ∉ "## Functions Analyzed".toList by decide),
    fencesAmong_listing (show '`' ∉ "## Classes Analyzed".toList by decide),
    fencesAmong_flatMap fun f _ => fencesAmong_functionEntry limit f,
    fencesAmong_flatMap fun c _ => fencesAmong_classEntry limit c, fencesAmong_cons, fencesAmong_nil, Nat.add_zero]

theorem fencesAmong_eq_zero {ss : List String} (h : ∀ s ∈ ss, '`' ∉ s.toList) : fencesAmong ss = 0 := by
  induction ss with
  | nil => rfl
  | cons s ss ih =>
      rw [fencesAmong_cons, fencesIn_eq_zero (h s (by simp)), ih fun t ht => h t (by simp [ht])]

theorem fencesIn_ticked_eq_zero {s : String} (h : '`' ∉ s.toList) : fencesIn ("`" ++ s ++ "`") = 0 := by
  have hticks : fences ['`'] = 0 := by decide
  rw [fencesIn, String.toList_append, String.toList_append]
  cases hs : s.toList with
  | nil => decide
  | cons c cs =>
      rw [hs, List.mem_cons, not_or] at h
      have happend : "`".toList ++ c :: cs ++ "`".toList = ['`'] ++ c :: (cs ++ ['`']) := rfl
      rw [happend, fences_append_cons (Ne.symm h.1), fences_plain_append h.2, hticks]

structure Plain (o : Outline) : Prop where
  path : '`' ∉ o.path.toList
  functions : ∀ f ∈ o.functions, ∀ s ∈ f.name :: f.args, '`' ∉ s.toList
  classes : ∀ c ∈ o.classes, ∀ s ∈ c.name :: c.methods.map Signature.name, '`' ∉ s.toList

def excerpts (limit : Nat) (o : Outline) : List String :=
  (o.functions.flatMap fun f => f.docstring.toList.map (excerpt limit)) ++
    o.classes.flatMap fun c => c.docstring.toList.map (excerpt limit)

theorem fencesAmong_inserted {o : Outline} (h : Plain o) (limit : Nat) :
    fencesAmong (inserted limit o) = fencesAmong (excerpts limit o) := by
  have hname : '`' ∉ ((Path.fileName? o.path).getD o.path).toList := by
    cases hfile : Path.fileName? o.path with
    | none => exact h.path
    | some name => exact fun hmem => h.path (Path.mem_fileName? hfile hmem).2
  have htest : '`' ∉ (Naming.testFile o.path o.language).toList := by
    intro hmem
    obtain hmem | hmem := Naming.mem_testFile hmem
    · exact absurd hmem (by decide)
    · exact h.path hmem.2
  have hentry {names : List String} {name : String} (hplain : ∀ s ∈ name :: names, '`' ∉ s.toList)
      (docs : List String) : fencesAmong (name :: (docs ++ names)) = fencesAmong docs := by
    have hnames : fencesAmong names = 0 := fencesAmong_eq_zero fun s hs => hplain s (by simp [hs])
    rw [fencesAmong_cons, fencesAmong_append, fencesIn_eq_zero (hplain name (by simp)), hnames]
    omega
  simp only [inserted, excerpts, fencesAmong_append, fencesAmong_cons, fencesAmong_nil, fencesIn_eq_zero hname,
    fencesIn_ticked_eq_zero h.path, fencesIn_ticked_eq_zero htest,
    fencesAmong_flatMap fun f hf => hentry (h.functions f hf) _,
    fencesAmong_flatMap fun c hc => hentry (h.classes c hc) _]
  omega

/-- A report ends with one line feed, after a backtick. -/
theorem exists_render (limit : Nat) (o : Outline) :
    ∃ body, render limit o = body ++ "\n" ∧ body.toList.getLast? = some '`' := by
  refine ⟨_, rfl, ?_⟩
  rw [closing_eq, ← List.append_assoc]
  obtain ⟨before, hbefore⟩ := Text.exists_joinWith "\n" _ _
  have hlast (s t : String) : (s ++ (t ++ "`")).toList.getLast? = some '`' := by
    rw [← String.append_assoc, String.toList_append]
    exact List.getLast?_concat
  rw [hbefore]
  exact hlast _ _

/-- Every report ends with exactly one line feed. It has as many fences as the texts that it takes over, and
only docstrings bring any if names and paths are plain. So no fenced block is left open if and only if the
parts of docstrings that are shown have an even number of fences. -/
theorem render_ends_and_fences (limit : Nat) (o : Outline) :
    (∃ body, render limit o = body ++ "\n" ∧ body.toList.getLast? ≠ some '\n') ∧
    fencesIn (render limit o) = fencesAmong (inserted limit o) ∧
    (Plain o → fencesIn (render limit o) = fencesAmong (excerpts limit o)) := by
  obtain ⟨body, hbody, hlast⟩ := exists_render limit o
  refine ⟨⟨body, hbody, ?_⟩, fencesIn_render limit o, fun h => ?_⟩
  · rw [hlast]
    decide
  · rw [fencesIn_render, fencesAmong_inserted h]

/-- One fence in a docstring is enough to leave a block open. -/
theorem render_leaves_block_open :
    ¬ ∀ (limit : Nat) (o : Outline), fencesIn (render limit o) % 2 = 0 := by
  intro h
  have hopen := h 100 ⟨.python, "calc.py", [⟨"add", 1, [], some "Example:\n```\nadd()", false⟩], []⟩
  rw [fencesIn_render] at hopen
  revert hopen
  decide +kernel

end Markdown

end Scaffold.Report
