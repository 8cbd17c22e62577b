import Mathlib.Data.List.Forall2
import Scaffold.Proofs.JavaScript.BlockEnd
import Scaffold.Proofs.JavaScript.Functions

namespace Scaffold.JavaScript

/-- What the outline says of a class that is closed at a byte: the place of the closing brace, and the
methods found in the body before it. -/
structure OutlinesBody (text : String) (o : Occurrence) (e : Nat) (c : ClassOutline)
    (brace : Nat) (found : List Occurrence) : Prop where
  brace_eq : byteAt text.toList brace = e ∧ text.toList[brace]? = some '}'
  isValid : (⟨e⟩ : String.Pos.Raw).IsValid text
  between : byteAt text.toList o.stop ≤ e ∧ e ≤ text.utf8ByteSize
  scan : Scan methodPattern
    (String.Pos.Raw.extract text ⟨byteAt text.toList o.stop⟩ ⟨e⟩).toList 0 found
  offset_eq : ∀ m ∈ found, byteAt text.toList (o.stop + m.start) = byteAt text.toList o.stop +
    byteAt (String.Pos.Raw.extract text ⟨byteAt text.toList o.stop⟩ ⟨e⟩).toList m.start
  methods_eq : c.methods =
    (found.filter fun m => methodPattern.nameIn m.parts ≠ "constructor").map fun m =>
      ⟨methodPattern.nameIn m.parts, lineAt text.toList (o.stop + m.start), [], none, false⟩
  sorted : c.methods.Pairwise fun m m' => m.line ≤ m'.line
  lines : ∀ m ∈ c.methods, c.line ≤ m.line ∧ m.line ≤ lineAt text.toList brace

structure OutlinesClass (text : String) (o : Occurrence) (c : ClassOutline) : Prop where
  name_eq : c.name = classPattern.nameIn o.parts
  line_eq : c.line = lineAt text.toList o.start
  docstring_eq : c.docstring = none
  isValid : (⟨byteAt text.toList o.stop⟩ : String.Pos.Raw).IsValid text
  unclosed : blockEnd? text (byteAt text.toList o.stop) = none → c.methods = []
  closed : ∀ e, blockEnd? text (byteAt text.toList o.stop) = some e →
    ∃ brace found, OutlinesBody text o e c brace found

theorem lineAt_mono (text : List Char) {i j : Nat} (h : i ≤ j) : lineAt text i ≤ lineAt text j := by
  have hsub := (List.take_prefix_take_left (l := text) h).sublist
  exact Nat.add_le_add_left (hsub.count_le '\n') 1

theorem lineAt_add (text : List Char) (i n : Nat) :
    lineAt text (i + n) = lineAt text i + ((text.drop i).take n).count '\n' := by
  rw [lineAt, lineAt, List.take_add, List.count_append, Nat.add_assoc]

theorem methodsIn_eq (text : List Char) (i n : Nat) :
    ∃ found, Scan methodPattern ((text.drop i).take n) 0 found ∧ (∀ m ∈ found, m.start ≤ n) ∧
      methodsIn (lineAt text i) ((text.drop i).take n) =
        (found.filter fun m => methodPattern.nameIn m.parts ≠ "constructor").map fun m =>
          ⟨methodPattern.nameIn m.parts, lineAt text (i + m.start), [], none, false⟩ := by
  obtain ⟨found, hscan, hmatches⟩ := Pattern.matchesFrom_start_eq count_name_methodPattern
    apart_methodPattern (lineAt text i) ((text.drop i).take n)
  have hname : .name ∈ methodPattern := List.count_pos_iff.mp (by rw [count_name_methodPattern]; decide)
  have hstart (m : Occurrence) (hm : m ∈ found) : m.start ≤ n :=
    ((hscan.start_lt_length hname m hm).trans_le (List.length_take_le n _)).le
  refine ⟨found, hscan, hstart, ?_⟩
  rw [methodsIn, hmatches, signatures_eq methodPattern _ _ found fun name => name ≠ "constructor"]
  refine List.map_congr_left fun m hm => ?_
  rw [lineAt_add, List.take_take, Nat.min_eq_left (hstart m (List.mem_of_mem_filter hm))]

theorem classOf_value (m : Match) :
    (classOf m).value.name = m.name ∧ (classOf m).value.line = m.start.line ∧
      (classOf m).value.docstring = none := by
  rw [classOf]
  split <;> exact ⟨rfl, rfl, rfl⟩

theorem outlinesBody (text : String) (o : Occurrence) (e : Nat)
    (h : blockEnd? text (byteAt text.toList o.stop) = some e) :
    ∃ brace found, OutlinesBody text o e (classOf (classPattern.matchOf 1 text.toList o)).value
      brace found := by
  obtain ⟨n, rfl, hbrace, hbody⟩ :=
    bodyOf?_eq_some (m := classPattern.matchOf 1 text.toList o) Cursor.place_rest h
  obtain ⟨found, hscan, hstart, hfound⟩ := methodsIn_eq text.toList o.stop n
  have hslice : (String.Pos.Raw.extract text ⟨byteAt text.toList o.stop⟩
      ⟨byteAt text.toList (o.stop + n)⟩).toList = (text.toList.drop o.stop).take n := by
    rw [extract_byteAt, String.toList_ofList]
  have hline : (classOf (classPattern.matchOf 1 text.toList o)).value.line =
      lineAt text.toList o.start := (classOf_value _).2.1
  have hmethods : (classOf (classPattern.matchOf 1 text.toList o)).value.methods =
      (found.filter fun m => methodPattern.nameIn m.parts ≠ "constructor").map fun m =>
        ⟨methodPattern.nameIn m.parts, lineAt text.toList (o.stop + m.start), [], none, false⟩ := by
    rw [← hfound, classOf, hbody]
    rfl
  refine ⟨o.stop + n, found, ⟨rfl, hbrace⟩, isValid_byteAt text _,
    ⟨?_, byteAt_le_utf8ByteSize text _⟩, ?_, ?_, hmethods, ?_, ?_⟩
  · rw [byteAt_add]
    exact Nat.le_add_right _ _
  · rw [hslice]
    exact hscan
  · intro m hm
    rw [hslice, byteAt_add, byteAt_eq ((text.toList.drop o.stop).take n), List.take_take,
      Nat.min_eq_left (hstart m hm)]
  · rw [hmethods]
    refine (hscan.pairwise.filter _).map _ fun m m' hle => lineAt_mono _ ?_
    have : m.start ≤ m.stop := Nat.le_add_right _ _
    omega
  · intro m hm
    rw [hmethods] at hm
    obtain ⟨m', hm', rfl⟩ := List.mem_map.mp hm
    have hle := hstart m' (List.mem_of_mem_filter hm')
    have hstop : o.start ≤ o.stop := Nat.le_add_right _ _
    rw [hline]
    exact ⟨lineAt_mono _ (by omega), lineAt_mono _ (by omega)⟩

theorem outlinesClass (text : String) (o : Occurrence) :
    OutlinesClass text o (classOf (classPattern.matchOf 1 text.toList o)).value := by
  obtain ⟨hname, hline, hdoc⟩ := classOf_value (classPattern.matchOf 1 text.toList o)
  refine ⟨hname, hline, hdoc, isValid_byteAt text _, fun h => ?_, fun e => outlinesBody text o e⟩
  rw [classOf, bodyOf?_eq_none (m := classPattern.matchOf 1 text.toList o) Cursor.place_rest h]

/-- The classes of a text: each occurrence of a heading gives one, in the order of the text. -/
theorem classes_eq_scan (path text : String) :
    ∃ os, Scan classPattern text.toList 0 os ∧
      (∀ others, Scan classPattern text.toList 0 others → others = os) ∧
      List.Forall₂ (OutlinesClass text) os (outline path text).value.classes := by
  obtain ⟨os, hscan, hfound⟩ :=
    Pattern.matches_eq count_name_classPattern apart_classPattern text.toList
  refine ⟨os, hscan, fun others hothers => hscan.unique hothers, ?_⟩
  have hclasses : (outline path text).value.classes =
      os.map fun o => (classOf (classPattern.matchOf 1 text.toList o)).value := by
    rw [outline, hfound]
    simp [Function.comp_def]
  rw [hclasses, List.forall₂_map_right_iff, List.forall₂_same]
  exact fun o _ => outlinesClass text o

end Scaffold.JavaScript
