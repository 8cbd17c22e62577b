import Mathlib.Tactic.ByContra
import Mathlib.Tactic.SplitIfs
import Scaffold.Placeholder
import Scaffold.Proofs.Text.Joining

namespace Scaffold.Placeholder

def Hinted (name : String) (hints : List String) : Prop :=
  ∃ h ∈ hints, h.toList <:+: (Text.lowerText name).toList

inductive Bucket where
  | text
  | count
  | flag
  | mock
  deriving DecidableEq, Repr

def bucket : Placeholder → Bucket
  | text _ => .text
  | count => .count
  | flag => .flag
  | mock _ => .mock

namespace Bucket

def rank : Bucket → Nat
  | text => 0
  | count => 1
  | flag => 2
  | mock => 3

def Fits (name : String) : Bucket → Prop
  | text => Hinted name textHints
  | count => Hinted name countHints
  | flag => Hinted name flagHints
  | mock => True

structure IsFirst (name : String) (b : Bucket) : Prop where
  fits : b.Fits name
  not_fits : ∀ b' : Bucket, b'.rank < b.rank → ¬ b'.Fits name

/-- What is written in a bucket for a name. -/
def item (trueText name : String) : Bucket → String
  | text => "'test_" ++ name ++ "'"
  | count => "1"
  | flag => trueText
  | mock => "'mock_" ++ name ++ "'"

end Bucket

variable {name trueText : String} {args : List String}

theorem hinted_iff {hints : List String} : hinted name hints ↔ Hinted name hints := by
  simp only [hinted, Hinted, List.any_eq_true, Text.occursIn_iff]

theorem isFirst_bucket (name : String) : (ofParameter name).bucket.IsFirst name := by
  rw [ofParameter]
  split_ifs with htext hcount hflag
  · refine ⟨hinted_iff.mp htext, ?_⟩
    intro b hb
    exact absurd hb (Nat.not_lt_zero _)
  · refine ⟨hinted_iff.mp hcount, ?_⟩
    intro b hb
    cases b with
    | text => exact fun h => htext (hinted_iff.mpr h)
    | count | flag | mock => exact absurd hb (by decide)
  · refine ⟨hinted_iff.mp hflag, ?_⟩
    intro b hb
    cases b with
    | text => exact fun h => htext (hinted_iff.mpr h)
    | count => exact fun h => hcount (hinted_iff.mpr h)
    | flag | mock => exact absurd hb (by decide)
  · refine ⟨trivial, ?_⟩
    intro b hb
    cases b with
    | text => exact fun h => htext (hinted_iff.mpr h)
    | count => exact fun h => hcount (hinted_iff.mpr h)
    | flag => exact fun h => hflag (hinted_iff.mpr h)
    | mock => exact absurd hb (Nat.lt_irrefl 3)

theorem Bucket.Fits.extend {b : Bucket} (h : b.Fits name) (before after : String) :
    b.Fits (before ++ name ++ after) := by
  have hlonger {hints : List String} (hascii : ∀ h ∈ hints, Text.IsAscii h)
      (hname : Hinted name hints) : Hinted (before ++ name ++ after) hints := by
    obtain ⟨hint, hmem, hin⟩ := hname
    exact ⟨hint, hmem, Text.isInfix_lowerText_append (hascii hint hmem) hin before after⟩
  cases b with
  | text => exact hlonger (by decide) h
  | count => exact hlonger (by decide) h
  | flag => exact hlonger (by decide) h
  | mock => trivial

/-- What fits a name fits a longer one, where an earlier bucket may fit as well. -/
theorem rank_bucket_le (name before after : String) :
    (ofParameter (before ++ name ++ after)).bucket.rank ≤ (ofParameter name).bucket.rank := by
  by_contra hlt
  apply (isFirst_bucket (before ++ name ++ after)).not_fits _ (Nat.not_le.mp hlt)
  have hfits : (ofParameter name).bucket.Fits name := (isFirst_bucket name).fits
  exact Bucket.Fits.extend hfits before after

theorem render_ofParameter (trueText name : String) :
    (ofParameter name).render trueText = (ofParameter name).bucket.item trueText name := by
  rw [ofParameter]
  split_ifs <;> rfl

theorem renderArgs_eq (trueText : String) (args : List String) :
    renderArgs trueText args = Text.joinWith ", " (args.map fun a => (ofParameter a).bucket.item trueText a) := by
  simp only [renderArgs, render_ofParameter]

theorem Bucket.item_ne_empty (htrue : trueText ≠ "") (name : String) (b : Bucket) : b.item trueText name ≠ "" := by
  cases b with
  | text | mock => simp [item]
  | count => exact (by decide : "1" ≠ "")
  | flag => exact htrue

theorem Bucket.not_mem_item (htrue : ',' ∉ trueText.toList) (hname : Text.isName name) (b : Bucket) :
    ',' ∉ (b.item trueText name).toList := by
  have hcomma : ',' ∉ name.toList := Text.not_mem_of_isName hname (by decide)
  cases b with
  | text | mock => simp [item, hcomma]
  | count => exact (by decide : ',' ∉ "1".toList)
  | flag => exact htrue

theorem Bucket.item_agrees (name : String) (b : Bucket) :
    if b = .flag then b.item pythonTrue name = "True" ∧ b.item javaScriptTrue name = "true"
    else b.item pythonTrue name = b.item javaScriptTrue name := by
  cases b with
  | flag => exact ⟨rfl, rfl⟩
  | text | count | mock => rfl

theorem cut_renderArgs (htrue : ',' ∉ trueText.toList) (h : ∀ a ∈ args, Text.isName a) (hne : args ≠ []) :
    Text.cut ", " (renderArgs trueText args) = args.map fun a => (ofParameter a).bucket.item trueText a := by
  rw [renderArgs_eq]
  apply Text.cut_joinWith (c := ',') rfl
  · simpa using hne
  · intro s hs
    obtain ⟨a, ha, rfl⟩ := List.mem_map.mp hs
    exact Bucket.not_mem_item htrue (h a ha) _

theorem renderArgs_eq_empty_iff (htrue : trueText ≠ "") : renderArgs trueText args = "" ↔ args = [] := by
  constructor
  · intro h
    cases args with
    | nil => rfl
    | cons a args =>
        have hitem := Bucket.item_ne_empty htrue a (ofParameter a).bucket
        rw [renderArgs_eq, List.map_cons] at h
        cases args with
        | nil => exact absurd h hitem
        | cons a' args => simp [Text.joinWith, hitem] at h
  · rintro rfl
    rfl

/-- The text for a list of parameters is empty if and only if there are none, and otherwise it is cut into one item
for each of them. The first bucket with a hint in the name tells which item that is, whatever the language, but for
the word for a true value. A longer name falls into the same bucket or an earlier one. -/
theorem renderArgs_reads_back {args : List String} (h : ∀ a ∈ args, Text.isName a) :
    (∀ name, (ofParameter name).bucket.IsFirst name) ∧
    (∀ trueText ∈ [pythonTrue, javaScriptTrue], (renderArgs trueText args = "" ↔ args = []) ∧
      (args ≠ [] → Text.cut ", " (renderArgs trueText args) =
        args.map fun a => (ofParameter a).bucket.item trueText a)) ∧
    (∀ (i : Nat) (a : String), args[i]? = some a → ∃ s t, (Text.cut ", " (renderArgs pythonTrue args))[i]? = some s ∧
      (Text.cut ", " (renderArgs javaScriptTrue args))[i]? = some t ∧
      if (ofParameter a).bucket = .flag then s = "True" ∧ t = "true" else s = t) ∧
    ∀ name before after,
      (ofParameter (before ++ name ++ after)).bucket.rank ≤ (ofParameter name).bucket.rank := by
  have hcomma : ∀ trueText ∈ [pythonTrue, javaScriptTrue], trueText ≠ "" ∧ ',' ∉ trueText.toList := by decide
  have hcut (trueText : String) (htrue : trueText ∈ [pythonTrue, javaScriptTrue]) (hne : args ≠ []) :=
    cut_renderArgs (hcomma trueText htrue).2 h hne
  refine ⟨isFirst_bucket, ?_, ?_, rank_bucket_le⟩
  · intro trueText htrue
    exact ⟨renderArgs_eq_empty_iff (hcomma trueText htrue).1, hcut trueText htrue⟩
  · intro i a ha
    have hne : args ≠ [] := by
      rintro rfl
      simp at ha
    rw [hcut pythonTrue (by simp) hne, hcut javaScriptTrue (by simp) hne, List.getElem?_map, List.getElem?_map, ha]
    exact ⟨_, _, rfl, rfl, Bucket.item_agrees a _⟩

/-- The first name has hints of two buckets, and in the last one a capital is no ASCII letter. -/
theorem renderArgs_reads_back_fourNames :
    (∀ a ∈ ["titleCount", "SIZE", "isFlag", "\u03a3x"], Text.isName a) ∧
      (ofParameter "titleCount").bucket.IsFirst "titleCount" ∧
      Text.cut ", " (renderArgs pythonTrue ["titleCount", "SIZE", "isFlag", "\u03a3x"]) =
        ["'test_titleCount'", "1", "True", "'mock_\u03a3x'"] ∧
      ∀ before after, (ofParameter (before ++ "SIZE" ++ after)).bucket.rank ≤ 1 := by
  have hnames : ∀ a ∈ ["titleCount", "SIZE", "isFlag", "\u03a3x"], Text.isName a := by decide +kernel
  obtain ⟨hfirst, hcut, -, hrank⟩ := renderArgs_reads_back hnames
  refine ⟨hnames, hfirst _, ?_, fun before after => Nat.le_trans (hrank "SIZE" before after) (by decide)⟩
  rw [(hcut pythonTrue (by simp)).2 (by simp)]
  decide

end Scaffold.Placeholder
