import Scaffold.Proofs.Stub.Lines
import Scaffold.Text.Character

namespace Scaffold.Stub.Unittest

/-- How deep a line lies, unless it is blank or a comment. -/
def depth? (line : String) : Option Nat :=
  match line.toList.find? fun c => !Text.isBlank c with
  | none => none
  | some c => if c = '#' then none else some (line.toList.takeWhile (· = ' ')).length

def endsInColon (line : String) : Bool := line.toList.getLast? == some ':'

def hasBody (depth : Nat) (rest : List String) : Bool :=
  (rest.takeWhile fun line => (depth? line).all fun n => depth < n).any fun line => (depth? line).isSome

def IsBlockStructured (lines : List String) : Prop :=
  ∀ before line rest depth, lines = before ++ line :: rest → depth? line = some depth → endsInColon line →
    hasBody depth rest

/-- The lines that open a block without a body. -/
def bodiless : List String → List String
  | [] => []
  | line :: rest =>
    match depth? line with
    | some depth => if endsInColon line && !hasBody depth rest then line :: bodiless rest else bodiless rest
    | none => bodiless rest

theorem bodiless_eq_nil_iff {lines : List String} : bodiless lines = [] ↔ IsBlockStructured lines := by
  induction lines with
  | nil => simp [bodiless, IsBlockStructured]
  | cons line lines ih =>
      have hcons : IsBlockStructured (line :: lines) ↔
          (∀ depth, depth? line = some depth → endsInColon line → hasBody depth lines) ∧
            IsBlockStructured lines := by
        constructor
        · intro h
          refine ⟨fun depth => h [] line lines depth rfl, fun before l rest depth hlines => ?_⟩
          exact h (line :: before) l rest depth (by rw [hlines, List.cons_append])
        · rintro ⟨hline, hlines⟩ before l rest depth heq
          cases before with
          | nil =>
              obtain ⟨rfl, rfl⟩ := List.cons.inj heq
              exact hline depth
          | cons b before => exact hlines before l rest depth (List.cons.inj heq).2
      rw [hcons, ← ih, bodiless]
      cases depth? line with
      | none => simp
      | some n => cases endsInColon line <;> cases hbody : hasBody n lines <;> simp [hbody]

section

variable {line : String} {rest : List String} {depth n : Nat}

theorem hasBody_cons_none (h : depth? line = none) : hasBody depth (line :: rest) = hasBody depth rest := by
  simp [hasBody, h]

theorem hasBody_cons_some (h : depth? line = some n) : hasBody depth (line :: rest) = decide (depth < n) := by
  by_cases hn : depth < n
  · simp [hasBody, h, hn]
  · simp [hasBody, h, hn]

theorem bodiless_cons_none (h : depth? line = none) : bodiless (line :: rest) = bodiless rest := by
  simp [bodiless, h]

theorem bodiless_cons_plain (h : endsInColon line = false) : bodiless (line :: rest) = bodiless rest := by
  rw [bodiless]
  cases depth? line with
  | none => rfl
  | some n => simp [h]

theorem bodiless_cons_open (h : depth? line = some n) (hcolon : endsInColon line = true) :
    bodiless (line :: rest) = if hasBody n rest then bodiless rest else line :: bodiless rest := by
  cases hbody : hasBody n rest <;> simp [bodiless, h, hcolon, hbody]

end

theorem takeWhile_append_of_any {p : Char → Bool} {s : List Char} (h : s.any (fun c => !p c) = true)
    (t : List Char) : (s ++ t).takeWhile p = s.takeWhile p := by
  induction s with
  | nil => cases h
  | cons c s ih =>
      by_cases hc : p c
      · simp only [List.any_cons, hc, Bool.not_true, Bool.false_or] at h
        rw [List.cons_append, List.takeWhile_cons, List.takeWhile_cons, ih h]
      · simp [hc]

theorem depth?_append {before : String} (h : before.toList.any (fun c => !Text.isBlank c) = true)
    (after : String) : depth? (before ++ after) = depth? before := by
  have hspace : before.toList.any (fun c => !decide (c = ' ')) = true := by
    obtain ⟨c, hc, hblank⟩ := List.any_eq_true.mp h
    refine List.any_eq_true.mpr ⟨c, hc, ?_⟩
    simp only [Bool.not_eq_true', decide_eq_false_iff_not]
    rintro rfl
    exact absurd hblank (by decide)
  obtain ⟨c, hc⟩ := Option.isSome_iff_exists.mp (List.find?_isSome.mpr (List.any_eq_true.mp h))
  rw [depth?, depth?, String.toList_append, List.find?_append, hc, takeWhile_append_of_any hspace]
  rfl

theorem endsInColon_append (before : String) {after : String} (h : after ≠ "") :
    endsInColon (before ++ after) = endsInColon after := by
  have hne : after.toList ≠ [] := by simpa using h
  obtain ⟨c, hc⟩ := Option.isSome_iff_exists.mp (List.getLast?_isSome.mpr hne)
  rw [endsInColon, endsInColon, String.toList_append, List.getLast?_append, hc]
  rfl

section

variable {before after : String} {rest : List String} {depth : Nat}

theorem depth?_comment (h : before.toList.find? (fun c => !Text.isBlank c) = some '#') (after : String) :
    depth? (before ++ after) = none := by
  have hany : before.toList.any (fun c => !Text.isBlank c) = true :=
    List.any_eq_true.mpr ⟨'#', List.mem_of_find?_eq_some h, by decide⟩
  rw [depth?_append hany, depth?, h]
  rfl

theorem hasBody_comment (h : before.toList.find? (fun c => !Text.isBlank c) = some '#') :
    hasBody depth ((before ++ after) :: rest) = hasBody depth rest :=
  hasBody_cons_none (depth?_comment h after)

theorem bodiless_comment (h : before.toList.find? (fun c => !Text.isBlank c) = some '#') :
    bodiless ((before ++ after) :: rest) = bodiless rest :=
  bodiless_cons_none (depth?_comment h after)

theorem depth?_heading (name : String) : depth? ("    def test_" ++ name) = some 4 :=
  (depth?_append (by decide) name).trans (by decide)

theorem hasBody_heading : hasBody depth (("    def test_" ++ after) :: rest) = decide (depth < 4) :=
  hasBody_cons_some (depth?_heading after)

theorem bodiless_heading (h : endsInColon after = true) : bodiless (("    def test_" ++ after) :: rest) =
    if hasBody 4 rest then bodiless rest else ("    def test_" ++ after) :: bodiless rest := by
  have hcolon : endsInColon ("    def test_" ++ after) = true := by
    rw [endsInColon_append _ _, h]
    rintro rfl
    exact absurd h (by decide)
  exact bodiless_cons_open (depth?_heading after) hcolon

end

theorem endsInColon_basic (name : String) : endsInColon (name ++ "_basic(self):") = true :=
  (endsInColon_append name (by decide)).trans (by decide)

theorem endsInColon_edge (name : String) : endsInColon (name ++ "_edge_cases(self):") = true :=
  (endsInColon_append name (by decide)).trans (by decide)

/-- Lines in the body of the class of which those in `headings` open a block without a body, whatever
members come after them. -/
structure Leaves (lines headings : List String) : Prop where
  closes {rest : List String} : hasBody 4 rest = false → hasBody 4 (lines ++ rest) = false
  bodiless_append {rest : List String} : hasBody 4 rest = false →
    bodiless (lines ++ rest) = headings ++ bodiless rest

namespace Leaves

theorem append {xs ys hs ks : List String} (hxs : Leaves xs hs) (hys : Leaves ys ks) :
    Leaves (xs ++ ys) (hs ++ ks) where
  closes hrest := by
    rw [List.append_assoc]
    exact hxs.closes (hys.closes hrest)
  bodiless_append hrest := by
    rw [List.append_assoc, List.append_assoc, hxs.bodiless_append (hys.closes hrest), hys.bodiless_append hrest]

theorem flatMap {α : Type} {lines headings : α → List String} (h : ∀ x, Leaves (lines x) (headings x)) (xs : List α) :
    Leaves (xs.flatMap lines) (xs.flatMap headings) := by
  induction xs with
  | nil => exact ⟨fun hrest => hrest, fun _ => rfl⟩
  | cons x xs ih => exact (h x).append ih

end Leaves

def functionHeadings (f : Signature) : List String :=
  ["    def test_" ++ f.name ++ "_basic(self):", "    def test_" ++ f.name ++ "_edge_cases(self):"]

/-- All the lines below the headings of a function are blank or comments. -/
theorem leaves_functionTests (module : String) (f : Signature) :
    Leaves (functionTests module f) (functionHeadings f) where
  closes _ := by
    rw [functionTests_eq, String.append_assoc, List.cons_append, hasBody_heading]
    rfl
  bodiless_append hrest := by
    simp only [functionTests_eq, functionHeadings, String.append_assoc, List.cons_append, List.nil_append]
    simp (disch := decide +kernel) only [bodiless_heading (endsInColon_basic f.name),
      bodiless_heading (endsInColon_edge f.name), hasBody_comment, bodiless_comment, hasBody_cons_none,
      bodiless_cons_none, hasBody_heading, hrest, Bool.false_eq_true, if_false, Nat.lt_irrefl, decide_false]

/-- The test of a method makes an instance of the class. -/
theorem leaves_methodTest (module className : String) (m : Signature) :
    Leaves (methodTest module className m) [] where
  closes _ := by
    rw [methodTest_eq, String.append_assoc, String.append_assoc, String.append_assoc, List.cons_append,
      hasBody_heading]
    rfl
  bodiless_append {rest} _ := by
    have hcolon : endsInColon (Text.lowerText className ++ ("_" ++ (m.name ++ "_basic(self):"))) = true := by
      rw [← String.append_assoc, ← String.append_assoc]
      exact endsInColon_basic _
    have hinstance : depth? ("        instance = " ++ (module ++ ("." ++ (className ++ "()")))) = some 8 :=
      (depth?_append (by decide) _).trans (by decide)
    have hplain : endsInColon ("        instance = " ++ (module ++ ("." ++ (className ++ "()")))) = false := by
      simp only [← String.append_assoc]
      exact (endsInColon_append _ (by decide)).trans (by decide)
    simp only [methodTest_eq, String.append_assoc, List.cons_append, List.nil_append]
    simp (disch := decide +kernel) only [bodiless_heading hcolon, hasBody_comment, hasBody_cons_some hinstance,
      bodiless_comment, bodiless_cons_plain hplain, bodiless_cons_none]
    exact if_pos (by decide)

theorem hasBody_footer : hasBody 4 (footer ++ [""]) = false := by decide

theorem bodiless_footer : bodiless (footer ++ [""]) = [] := by decide

theorem bodiless_header {module : String} (hmodule : Text.isIdentifier module) (rest : List String) :
    bodiless (header module ++ rest) = bodiless rest := by
  have himport : endsInColon ("import " ++ module) = false := by
    rw [endsInColon, beq_eq_false_iff_ne, String.toList_append, List.getLast?_append]
    intro hlast
    cases hname : module.toList.getLast? with
    | none => simp [hname] at hlast
    | some c =>
        rw [hname, Option.some_or, Option.some.injEq] at hlast
        exact Text.not_mem_of_isIdentifier hmodule (by decide) (by decide)
          (hlast ▸ List.mem_of_getLast? hname)
  have hclass : depth? ("class " ++ (Naming.testClass module ++ "(unittest.TestCase):")) = some 0 :=
    (depth?_append (by decide) _).trans (by decide)
  have hcolon : endsInColon ("class " ++ (Naming.testClass module ++ "(unittest.TestCase):")) = true := by
    rw [← String.append_assoc]
    exact (endsInColon_append _ (by decide)).trans (by decide)
  have hsetUp : depth? "    def setUp(self):" = some 4 := by decide
  have hpass : depth? "        pass" = some 8 := by decide
  simp only [header, String.append_assoc, List.cons_append, List.nil_append]
  simp (disch := decide +kernel) only [bodiless_cons_plain, bodiless_cons_plain himport, bodiless_cons_open hclass hcolon,
    bodiless_cons_open hsetUp, hasBody_cons_some hsetUp, hasBody_cons_some hpass, hasBody_cons_none]
  rfl

theorem bodiless_render {o : Outline} (hwords : ∀ s ∈ o.words, Text.OneLine s)
    (hmodule : Text.isIdentifier (Naming.stem o.path)) :
    bodiless (Text.split '\n' (render o)) = o.functions.flatMap functionHeadings := by
  have hfunctions := Leaves.flatMap (leaves_functionTests (Naming.stem o.path)) o.functions
  have hmethods := Leaves.flatMap (fun c : ClassOutline =>
    Leaves.flatMap (leaves_methodTest (Naming.stem o.path) c.name) c.methods) o.classes
  rw [split_render hwords, fileLines, List.append_assoc, List.append_assoc, List.append_assoc,
    bodiless_header hmodule, hfunctions.bodiless_append (hmethods.closes hasBody_footer),
    hmethods.bodiless_append hasBody_footer, bodiless_footer]
  simp

/-- Every block of a file has a body but the tests of functions, and these never have one: a file is made of
blocks as it should be if and only if it tests no function. -/
theorem isBlockStructured_render_iff {o : Outline} (hwords : ∀ s ∈ o.words, Text.OneLine s)
    (hmodule : Text.isIdentifier (Naming.stem o.path)) :
    bodiless (Text.split '\n' (render o)) = o.functions.flatMap functionHeadings ∧
      (IsBlockStructured (Text.split '\n' (render o)) ↔ o.functions = []) := by
  have hbodiless := bodiless_render hwords hmodule
  refine ⟨hbodiless, ?_⟩
  rw [← bodiless_eq_nil_iff, hbodiless]
  cases o.functions with
  | nil => simp
  | cons f functions => simp [functionHeadings]

def oneFunction : Outline :=
  ⟨.python, "calc.py", [⟨"add", 1, ["a", "b"], none, false⟩], [⟨"Counter", 5, none, [⟨"tick", 6, [], none, false⟩]⟩]⟩

theorem bodiless_oneFunction : bodiless (Text.split '\n' (render oneFunction)) =
    ["    def test_add_basic(self):", "    def test_add_edge_cases(self):"] :=
  (isBlockStructured_render_iff (o := oneFunction) (by decide) (by decide +kernel)).1

theorem not_isBlockStructured_oneFunction :
    ¬ ∀ o : Outline, (∀ s ∈ o.words, Text.isIdentifier s) → IsBlockStructured (Text.split '\n' (render o)) := by
  intro h
  have hwords : ∀ s ∈ oneFunction.words, Text.isIdentifier s := by decide +kernel
  have hbodiless := bodiless_render (fun s hs => Text.oneLine_of_isIdentifier (hwords s hs))
    (hwords _ Outline.stem_mem_words)
  rw [bodiless_eq_nil_iff.mpr (h oneFunction hwords)] at hbodiless
  cases hbodiless

end Scaffold.Stub.Unittest
