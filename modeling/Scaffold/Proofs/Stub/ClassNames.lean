import Mathlib.Data.List.SplitBy
import Scaffold.Naming
import Scaffold.Proofs.Stub.Lines
import Scaffold.Proofs.Text.Joining

namespace Scaffold.Naming

def recased (afterLetter : Bool) (c : Char) : Char := if afterLetter then c.toLower else c.toUpper

def alike (c d : Char) : Bool := c.isAlpha == d.isAlpha

/-- The longest pieces of a text that are all letters, and those that have none. -/
def runs (cs : List Char) : List (List Char) := cs.splitBy alike

def capitalized : List Char → List Char
  | [] => []
  | c :: cs => c.toUpper :: cs.map Char.toLower

def titled (run : List Char) : List Char := if run.all Char.isAlpha then capitalized run else run

variable {c : Char} {cs ds : List Char} {afterLetter : Bool}

@[elab_as_elim]
theorem forall_ascii {motive : Char → Prop} (hc : c.toNat < 128) (h : ∀ n < 128, motive (.ofNat n)) : motive c := by
  have hmotive := h c.toNat hc
  rwa [Char.ofNat_toNat] at hmotive

theorem isLetter_ascii (hc : c.toNat < 128) : Text.isLetter c = c.isAlpha := by
  refine forall_ascii hc ?_
  decide

theorem recased_of_not_isAlpha (hc : c.toNat < 128) : c.isAlpha = false → ∀ afterLetter, recased afterLetter c = c := by
  refine forall_ascii hc ?_
  decide

theorem toNat_recased_lt (hc : c.toNat < 128) : ∀ afterLetter, (recased afterLetter c).toNat < 128 := by
  refine forall_ascii hc ?_
  decide

theorem isAlpha_recased (hc : c.toNat < 128) : ∀ afterLetter, (recased afterLetter c).isAlpha = c.isAlpha := by
  refine forall_ascii hc ?_
  decide

theorem isAlphanum_recased (hc : c.toNat < 128) :
    ∀ afterLetter, (recased afterLetter c).isAlphanum = c.isAlphanum := by
  refine forall_ascii hc ?_
  decide

theorem recased_recased (hc : c.toNat < 128) :
    ∀ afterLetter, recased afterLetter (recased afterLetter c) = recased afterLetter c := by
  refine forall_ascii hc ?_
  decide

theorem recased_toLower (hc : c.toNat < 128) : ∀ afterLetter, recased afterLetter c.toLower = recased afterLetter c := by
  refine forall_ascii hc ?_
  decide

theorem toNat_toLower_lt (hc : c.toNat < 128) : c.toLower.toNat < 128 := toNat_recased_lt hc true

theorem isAlpha_toLower (hc : c.toNat < 128) : c.toLower.isAlpha = c.isAlpha := isAlpha_recased hc true

theorem lt_of_toLower_lt (h : c.toLower.toNat < 128) : c.toNat < 128 := by
  delta Char.toLower at h
  split at h
  · next hupper =>
      have hle : c.val.toNat ≤ 90 := UInt32.le_iff_toNat_le.mp hupper.2
      exact Nat.lt_of_le_of_lt hle (by decide)
  · exact h

theorem titleCaseAfter_cons (hc : c.toNat < 128) (afterLetter : Bool) (cs : List Char) :
    titleCaseAfter afterLetter (c :: cs) = recased afterLetter c :: titleCaseAfter c.isAlpha cs := by
  rw [titleCaseAfter, isLetter_ascii hc]
  cases halpha : c.isAlpha with
  | true =>
      rw [if_pos rfl, Text.lowerCase, Text.upperCase, if_pos hc, if_pos hc]
      cases afterLetter with
      | true => rfl
      | false => rfl
  | false => rw [if_neg Bool.false_ne_true, recased_of_not_isAlpha hc halpha]

theorem exists_of_mem_titleCaseAfter {d : Char} (hcs : ∀ c ∈ cs, c.toNat < 128) (hd : d ∈ titleCaseAfter afterLetter cs) :
    ∃ c ∈ cs, ∃ afterLetter, d = recased afterLetter c := by
  induction cs generalizing afterLetter with
  | nil => cases hd
  | cons c cs ih =>
      simp only [List.forall_mem_cons] at hcs
      rw [titleCaseAfter_cons hcs.1] at hd
      rcases List.mem_cons.mp hd with rfl | hd
      · exact ⟨c, .head _, _, rfl⟩
      · obtain ⟨e, he, hrecased⟩ := ih hcs.2 hd
        exact ⟨e, .tail _ he, hrecased⟩

theorem length_titleCaseAfter (hcs : ∀ c ∈ cs, c.toNat < 128) :
    (titleCaseAfter afterLetter cs).length = cs.length := by
  induction cs generalizing afterLetter with
  | nil => rfl
  | cons c cs ih =>
      simp only [List.forall_mem_cons] at hcs
      rw [titleCaseAfter_cons hcs.1, List.length_cons, List.length_cons, ih hcs.2]

theorem titleCaseAfter_idem (hcs : ∀ c ∈ cs, c.toNat < 128) :
    titleCaseAfter afterLetter (titleCaseAfter afterLetter cs) = titleCaseAfter afterLetter cs := by
  induction cs generalizing afterLetter with
  | nil => rfl
  | cons c cs ih =>
      simp only [List.forall_mem_cons] at hcs
      have hascii := toNat_recased_lt hcs.1 afterLetter
      rw [titleCaseAfter_cons hcs.1, titleCaseAfter_cons hascii, recased_recased hcs.1, isAlpha_recased hcs.1,
        ih hcs.2]

theorem titleCaseAfter_map_toLower (hcs : ∀ c ∈ cs, c.toNat < 128) :
    titleCaseAfter afterLetter (cs.map Char.toLower) = titleCaseAfter afterLetter cs := by
  induction cs generalizing afterLetter with
  | nil => rfl
  | cons c cs ih =>
      simp only [List.forall_mem_cons] at hcs
      rw [List.map_cons, titleCaseAfter_cons (toNat_toLower_lt hcs.1), titleCaseAfter_cons hcs.1,
        recased_toLower hcs.1, isAlpha_toLower hcs.1, ih hcs.2]

theorem titleCaseAfter_letters (hcs : ∀ c ∈ cs, c.toNat < 128) (halpha : ∀ c ∈ cs, c.isAlpha = true)
    (ds : List Char) : titleCaseAfter true (cs ++ ds) = cs.map Char.toLower ++ titleCaseAfter true ds := by
  induction cs with
  | nil => rfl
  | cons c cs ih =>
      simp only [List.forall_mem_cons] at hcs halpha
      rw [List.cons_append, titleCaseAfter_cons hcs.1, halpha.1, ih hcs.2 halpha.2]
      rfl

theorem titleCaseAfter_others (hcs : ∀ c ∈ cs, c.toNat < 128) (halpha : ∀ c ∈ cs, c.isAlpha = false)
    (ds : List Char) : titleCaseAfter false (cs ++ ds) = cs ++ titleCaseAfter false ds := by
  induction cs with
  | nil => rfl
  | cons c cs ih =>
      simp only [List.forall_mem_cons] at hcs halpha
      rw [List.cons_append, titleCaseAfter_cons hcs.1, recased_of_not_isAlpha hcs.1 halpha.1, halpha.1,
        ih hcs.2 halpha.2, List.cons_append]

theorem titleCaseAfter_run (hcs : ∀ d ∈ c :: cs, d.toNat < 128) (hsame : ∀ d ∈ c :: cs, d.isAlpha = c.isAlpha)
    (ds : List Char) :
    titleCaseAfter false (c :: cs ++ ds) = titled (c :: cs) ++ titleCaseAfter c.isAlpha ds := by
  cases halpha : c.isAlpha with
  | true =>
      have hall : (c :: cs).all Char.isAlpha = true :=
        List.all_eq_true.mpr fun d hd => (hsame d hd).trans halpha
      simp only [List.forall_mem_cons] at hcs hsame
      rw [titled, if_pos hall, List.cons_append, titleCaseAfter_cons hcs.1, halpha,
        titleCaseAfter_letters hcs.2 fun d hd => (hsame.2 d hd).trans halpha]
      rfl
  | false =>
      rw [titled, if_neg (by simp [halpha]), titleCaseAfter_others hcs fun d hd => (hsame d hd).trans halpha]

theorem titleCaseAfter_true (hcs : ∀ c ∈ cs, c.toNat < 128) (halpha : ∀ c ∈ cs.head?, c.isAlpha = false) :
    titleCaseAfter true cs = titleCaseAfter false cs := by
  cases cs with
  | nil => rfl
  | cons c cs =>
      have hc := recased_of_not_isAlpha (hcs c (.head _)) (halpha c rfl)
      rw [titleCaseAfter_cons (hcs c (.head _)), titleCaseAfter_cons (hcs c (.head _)), hc, hc]

theorem isAlpha_of_isChain (h : (c :: cs).IsChain fun c d => alike c d = true) :
    ∀ d ∈ c :: cs, d.isAlpha = c.isAlpha := by
  induction cs generalizing c with
  | nil => simp
  | cons e cs ih =>
      obtain ⟨halike, hchain⟩ := List.isChain_cons_cons.mp h
      have he : e.isAlpha = c.isAlpha := (eq_of_beq halike).symm
      rw [List.forall_mem_cons]
      exact ⟨rfl, fun d hd => (ih hchain d hd).trans he⟩

theorem titleCaseAfter_flatten {rs : List (List Char)} (hcs : ∀ c ∈ rs.flatten, c.toNat < 128) (hnil : [] ∉ rs)
    (hrun : ∀ run ∈ rs, run.IsChain fun c d => alike c d = true)
    (hnext : rs.IsChain fun run next => ∃ (h : run ≠ []) (h' : next ≠ []),
      alike (run.getLast h) (next.head h') = false) :
    titleCaseAfter false rs.flatten = rs.flatMap titled := by
  induction rs with
  | nil => rfl
  | cons run rs ih =>
      simp only [List.mem_cons, not_or] at hnil
      simp only [List.flatten_cons, List.forall_mem_append] at hcs
      obtain ⟨c, cs, rfl⟩ := List.exists_cons_of_ne_nil (Ne.symm hnil.1)
      have hsame := isAlpha_of_isChain (hrun _ (.head _))
      have hrest := ih hcs.2 hnil.2 (fun run hmem => hrun run (.tail _ hmem)) hnext.tail
      rw [List.flatten_cons, titleCaseAfter_run hcs.1 hsame, List.flatMap_cons, ← hrest]
      congr 1
      cases halpha : c.isAlpha with
      | false => rfl
      | true =>
          apply titleCaseAfter_true hcs.2
          cases rs with
          | nil => simp
          | cons next rs =>
              obtain ⟨hne, hne', hdiffer⟩ := (List.isChain_cons_cons.mp hnext).1
              obtain ⟨d, ds, rfl⟩ := List.exists_cons_of_ne_nil hne'
              rw [alike, hsame _ (List.getLast_mem hne), halpha] at hdiffer
              intro e he
              obtain rfl : d = e := Option.some.inj he
              simpa using hdiffer

theorem titleCase_eq_runs {s : String} (h : Text.IsAscii s) :
    (titleCase s).toList = (runs s.toList).flatMap titled := by
  obtain ⟨hflatten, hnil, hrun, hnext⟩ := List.splitBy_eq_iff.mp (rfl : runs s.toList = runs s.toList)
  have hcs : ∀ c ∈ (runs s.toList).flatten, c.toNat < 128 := by
    rw [← hflatten]
    exact h
  rw [titleCase, String.toList_ofList, ← titleCaseAfter_flatten hcs hnil hrun hnext, ← hflatten]

variable {s t : String}

theorem exists_of_mem_titleCase (h : Text.IsAscii s) (hc : c ∈ (titleCase s).toList) :
    ∃ d ∈ s.toList, ∃ afterLetter, c = recased afterLetter d := by
  rw [titleCase, String.toList_ofList] at hc
  exact exists_of_mem_titleCaseAfter h hc

theorem isAscii_titleCase (h : Text.IsAscii s) : Text.IsAscii (titleCase s) := by
  intro c hc
  obtain ⟨d, hd, afterLetter, rfl⟩ := exists_of_mem_titleCase h hc
  exact toNat_recased_lt (h d hd) afterLetter

theorem length_titleCase (h : Text.IsAscii s) : (titleCase s).length = s.length := by
  rw [titleCase, String.length_ofList, length_titleCaseAfter h, String.length_toList]

theorem titleCase_titleCase (h : Text.IsAscii s) : titleCase (titleCase s) = titleCase s := by
  rw [titleCase, titleCase, String.toList_ofList, titleCaseAfter_idem h]

theorem toList_toLower (s : String) : s.toLower.toList = s.toList.map Char.toLower := String.toList_map

theorem titleCase_toLower (h : Text.IsAscii s) : titleCase s.toLower = titleCase s := by
  rw [titleCase, toList_toLower, titleCaseAfter_map_toLower h, titleCase]

theorem isAscii_of_toLower_eq (h : Text.IsAscii s) (ht : t.toLower = s.toLower) : Text.IsAscii t := by
  have hlower : t.toList.map Char.toLower = s.toList.map Char.toLower := by
    rw [← toList_toLower, ht, toList_toLower]
  intro c hc
  apply lt_of_toLower_lt
  have hmem := List.mem_map_of_mem (f := Char.toLower) hc
  rw [hlower] at hmem
  obtain ⟨d, hd, heq⟩ := List.mem_map.mp hmem
  rw [← heq]
  exact toNat_toLower_lt (h d hd)

theorem titleCase_congr (h : Text.IsAscii s) (ht : t.toLower = s.toLower) : titleCase t = titleCase s := by
  rw [← titleCase_toLower (isAscii_of_toLower_eq h ht), ht, titleCase_toLower h]

theorem isAlphanum_of_isIdentifier (hc : c.toNat < 128) :
    Text.isIdentifierStart c ∨ Text.isIdentifierPart c → c.isAlphanum ∨ c = '_' := by
  refine forall_ascii hc ?_
  decide

theorem isAlphanum_testClass (h : Text.IsAscii s) (hs : Text.isIdentifier s) :
    ∃ cs, testClass s = "Test" ++ String.ofList cs ∧ ∀ c ∈ cs, c.isAlphanum := by
  refine ⟨_, rfl, ?_⟩
  intro c hc
  obtain ⟨hmem, hne⟩ := List.mem_filter.mp hc
  obtain ⟨d, hd, afterLetter, rfl⟩ := exists_of_mem_titleCase h hmem
  rcases isAlphanum_of_isIdentifier (h d hd) (Text.isIdentifier_char hs hd) with hd' | rfl
  · rw [isAlphanum_recased (h d hd)]
    exact hd'
  · rw [recased_of_not_isAlpha (by decide) (by decide)] at hne
    exact absurd hne (by decide)

/-- Title case of a text in ASCII has the length of the text. It capitalizes the runs of letters and keeps all else,
does nothing more when it is done again, and is the same for texts that differ in case. So the test class for an
identifier has one name whatever the case, with letters and digits only. -/
theorem titleCase_of_isAscii {s : String} (h : Text.IsAscii s) :
    (Text.IsAscii (titleCase s) ∧ (titleCase s).length = s.length) ∧
    (titleCase s).toList = (runs s.toList).flatMap titled ∧
    titleCase (titleCase s) = titleCase s ∧
    (∀ t : String, t.toLower = s.toLower → titleCase t = titleCase s ∧ testClass t = testClass s) ∧
    (Text.isIdentifier s → ∃ cs, testClass s = "Test" ++ String.ofList cs ∧ ∀ c ∈ cs, c.isAlphanum) := by
  refine ⟨⟨isAscii_titleCase h, length_titleCase h⟩, titleCase_eq_runs h, titleCase_titleCase h, ?_,
    isAlphanum_testClass h⟩
  intro t ht
  have htitle := titleCase_congr h ht
  exact ⟨htitle, by rw [testClass, testClass, htitle]⟩

theorem titleCase_of_isAscii_mixedStem :
    Text.IsAscii "HTTP_client2x" ∧ Text.isIdentifier "HTTP_client2x" ∧
      (titleCase "HTTP_client2x").toList = (runs "HTTP_client2x".toList).flatMap titled ∧
      runs "HTTP_client2x".toList = ["HTTP".toList, ['_'], "client".toList, ['2'], ['x']] ∧
      testClass "http_CLIENT2X" = testClass "HTTP_client2x" ∧ testClass "HTTP_client2x" = "TestHttpClient2X" := by
  have hascii : Text.IsAscii "HTTP_client2x" := by decide
  have hidentifier : Text.isIdentifier "HTTP_client2x" := by decide
  have hpieces : runs "HTTP_client2x".toList = ["HTTP".toList, ['_'], "client".toList, ['2'], ['x']] := by
    decide
  have hname : testClass "HTTP_client2x" = "TestHttpClient2X" := by decide
  have hlower : "http_CLIENT2X".toLower = "HTTP_client2x".toLower := by
    rw [← String.toList_inj, toList_toLower, toList_toLower]
    decide
  obtain ⟨-, hruns, -, hcase, -⟩ := titleCase_of_isAscii hascii
  exact ⟨hascii, hidentifier, hruns, hpieces, (hcase _ hlower).2, hname⟩

end Scaffold.Naming
