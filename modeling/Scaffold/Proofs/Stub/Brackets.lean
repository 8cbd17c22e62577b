import Scaffold.Proofs.Stub.Imports
import Scaffold.Proofs.Text.Beginnings
import Scaffold.Proofs.Text.Joining

namespace Scaffold.Stub.Jest

def isQuote (c : Char) : Bool := c = '\'' || c = '"' || c = '`'

def bracketPairs : List (Char × Char) := [('(', ')'), ('{', '}')]

def isBracket (c : Char) : Bool := bracketPairs.any fun p => c = p.1 || c = p.2

/-- What is left out of a file before its brackets are read, and whether a backslash between quotes takes the
next character with it. -/
structure Reading where
  skipsComments : Bool
  skipsQuoted : Bool
  escapes : Bool

inductive Place where
  | code
  | quoted (quote : Char)
  | escaped (quote : Char)
  deriving DecidableEq, Repr

/-- Where a reader is, and the brackets that are open, innermost first. -/
structure Scan where
  place : Place
  brackets : List Char
  deriving DecidableEq, Repr

def readBracket (stack : List Char) (c : Char) : Option (List Char) :=
  if bracketPairs.any fun p => c = p.1 then some (c :: stack)
  else if bracketPairs.any fun p => c = p.2 then
    match stack with
    | [] => none
    | b :: rest => if (b, c) ∈ bracketPairs then some rest else none
  else some stack

def step (r : Reading) (s : Scan) (c : Char) : Option Scan :=
  match s.place with
  | .code =>
    if isQuote c && r.skipsQuoted then some { s with place := .quoted c }
    else (readBracket s.brackets c).map fun stack => { s with brackets := stack }
  | .quoted quote =>
    if c = quote then some { s with place := .code }
    else if c = '\\' && r.escapes then some { s with place := .escaped quote }
    else some s
  | .escaped quote => some { s with place := .quoted quote }

def run (r : Reading) (s : Scan) (text : String) : Option Scan := text.toList.foldlM (step r) s

def isComment (line : String) : Bool := Text.begins "//" line

def readLine (r : Reading) (s : Scan) (line : String) : Option Scan :=
  if isComment line && r.skipsComments then some s else run r s line

def IsNested (r : Reading) (text : String) : Prop :=
  (Text.split '\n' text).foldlM (readLine r) ⟨.code, []⟩ = some ⟨.code, []⟩

def isPlain (s : String) : Bool := s.toList.all fun c => !isQuote c && !isBracket c && c ≠ '\n'

variable {r : Reading} {s t : Scan} {stack : List Char}

theorem run_append (r : Reading) (s : Scan) (a b : String) :
    run r s (a ++ b) = (run r s a).bind fun t => run r t b := by
  rw [run, String.toList_append, List.foldlM_append]
  rfl

theorem run_of_steps {text : String} (h : ∀ c ∈ text.toList, step r s c = some s) : run r s text = some s := by
  rw [run]
  generalize text.toList = cs at h
  induction cs with
  | nil => rfl
  | cons c cs ih =>
      rw [List.foldlM_cons, h c (.head _)]
      exact ih fun d hd => h d (.tail _ hd)

theorem readBracket_of_not {c : Char} (h : isBracket c = false) (stack : List Char) :
    readBracket stack c = some stack := by
  simp only [isBracket, List.any_eq_false, Bool.or_eq_true, decide_eq_true_eq, not_or] at h
  have hopens : bracketPairs.any (fun p => c = p.1) = false := by
    simpa [List.any_eq_false] using fun p q hp => (h (p, q) hp).1
  have hcloses : bracketPairs.any (fun p => c = p.2) = false := by
    simpa [List.any_eq_false] using fun p q hp => (h (p, q) hp).2
  simp [readBracket, hopens, hcloses]

def inQuotes (r : Reading) : Place := if r.skipsQuoted then .quoted '\'' else .code

theorem run_plain {word : String} (hplain : isPlain word) (hescapes : r.escapes → '\\' ∉ word.toList)
    (hplace : s.place = .code ∨ s.place = .quoted '\'') : run r s word = some s := by
  apply run_of_steps
  intro c hc
  have hchar := List.all_eq_true.mp hplain c hc
  simp only [Bool.and_eq_true, Bool.not_eq_true'] at hchar
  obtain ⟨⟨hquote, hbracket⟩, -⟩ := hchar
  rcases s with ⟨place, brackets⟩
  rcases hplace with rfl | rfl
  · simp [step, hquote, readBracket_of_not hbracket]
  · have hne : c ≠ '\'' := by
      rintro rfl
      exact absurd hquote (by decide)
    by_cases hback : c = '\\'
    · have hnot : r.escapes = false := by
        rw [Bool.eq_false_iff]
        exact fun h => hescapes h (hback ▸ hc)
      simp [step, hne, hnot]
    · simp [step, hne, hback]

theorem place_inQuotes (r : Reading) (stack : List Char) :
    (Scan.mk (inQuotes r) stack).place = .code ∨ (Scan.mk (inQuotes r) stack).place = .quoted '\'' := by
  rw [inQuotes]
  split
  · exact .inr rfl
  · exact .inl rfl

variable {word title : String}

theorem readLine_of_run {line : String} (h : run r s line = some s) : readLine r s line = some s := by
  rw [readLine]
  split
  · rfl
  · exact h

theorem readLine_code {before after : String} (h : Text.parts "//" before = true) :
    readLine r s (before ++ after) = run r s (before ++ after) := by
  rw [readLine, isComment, Text.begins_append_of_parts h]
  rfl

/-- The line that opens a group or a test leaves a parenthesis and a brace open. -/
theorem run_opening {before : String} (hbefore : run r ⟨.code, stack⟩ before = some ⟨inQuotes r, '(' :: stack⟩)
    (hplain : isPlain title) (hescapes : r.escapes → '\\' ∉ title.toList) :
    run r ⟨.code, stack⟩ (before ++ (title ++ "', () => \x7b")) = some ⟨.code, '\x7b' :: '(' :: stack⟩ := by
  have hafter : run r ⟨inQuotes r, '(' :: stack⟩ "', () => \x7b" = some ⟨.code, '\x7b' :: '(' :: stack⟩ := by
    rcases r with ⟨_, _ | _, _⟩ <;> rfl
  rw [run_append, hbefore, Option.bind_some, run_append,
    run_plain hplain hescapes (place_inQuotes r _), Option.bind_some, hafter]

theorem run_joinWith {separator : String} (hseparator : ∀ stack, run r ⟨.code, stack⟩ separator = some ⟨.code, stack⟩)
    {ss : List String} (h : ∀ s ∈ ss, ∀ stack, run r ⟨.code, stack⟩ s = some ⟨.code, stack⟩) (stack : List Char) :
    run r ⟨.code, stack⟩ (Text.joinWith separator ss) = some ⟨.code, stack⟩ := by
  induction ss with
  | nil => rfl
  | cons s ss ih =>
      have hs := h s (.head _) stack
      by_cases hss : ss = []
      · subst hss
        exact hs
      · rw [Text.joinWith_cons _ _ hss, run_append, run_append, hs, Option.bind_some, hseparator, Option.bind_some,
          ih fun t ht => h t (.tail _ ht)]

/-- The quotes of placeholders are closed. -/
theorem run_renderArgs {args : List String} (h : ∀ a ∈ args, isPlain a ∧ '\\' ∉ a.toList) (stack : List Char) :
    run r ⟨.code, stack⟩ (Placeholder.renderArgs Placeholder.javaScriptTrue args) = some ⟨.code, stack⟩ := by
  apply run_joinWith (fun _ => by rcases r with ⟨_, _ | _, _⟩ <;> rfl)
  intro s hs stack
  obtain ⟨a, ha, rfl⟩ := List.mem_map.mp hs
  obtain ⟨hplain, hback⟩ := h a ha
  have hquoted {before : String} (hbefore : run r ⟨.code, stack⟩ before = some ⟨inQuotes r, stack⟩) :
      run r ⟨.code, stack⟩ (before ++ a ++ "'") = some ⟨.code, stack⟩ := by
    rw [run_append, run_append, hbefore, Option.bind_some,
      run_plain hplain (fun _ => hback) (place_inQuotes r _), Option.bind_some]
    rcases r with ⟨_, _ | _, _⟩ <;> rfl
  rw [Placeholder.ofParameter]
  split
  · apply hquoted
    rcases r with ⟨_, _ | _, _⟩ <;> rfl
  · split
    · rcases r with ⟨_, _ | _, _⟩ <;> rfl
    · split
      · rcases r with ⟨_, _ | _, _⟩ <;> rfl
      · apply hquoted
        rcases r with ⟨_, _ | _, _⟩ <;> rfl

theorem isPlain_append {a b : String} (ha : isPlain a) (hb : isPlain b) : isPlain (a ++ b) := by
  simp only [isPlain, String.toList_append, List.all_append, Bool.and_eq_true] at ha hb ⊢
  exact ⟨ha, hb⟩

theorem isPlain_of_isName {s : String} (h : Text.isName s) : isPlain s := by
  rw [isPlain, List.all_eq_true]
  intro c hc
  have hchar := Text.isNameChar_of_isName h hc
  have hsigns : ∀ d ∈ ['\'', '"', '`', '(', ')', '\x7b', '\x7d', '\n'], ¬ Text.isNameChar d := List.any_eq_false.mp (by decide)
  have hne {d : Char} (hd : d ∈ ['\'', '"', '`', '(', ')', '\x7b', '\x7d', '\n']) : c ≠ d := by
    rintro rfl
    exact hsigns c hd hchar
  simp [isQuote, isBracket, bracketPairs, hne]

theorem oneLine_of_isPlain {s : String} (h : isPlain s) : Text.OneLine s := by
  intro hmem
  have hchar := List.all_eq_true.mp h _ hmem
  exact absurd hchar (by decide)

end Scaffold.Stub.Jest
