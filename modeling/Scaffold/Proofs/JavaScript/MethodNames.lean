import Mathlib.Data.List.DropRight
import Scaffold.Proofs.JavaScript.Appending
import Scaffold.Proofs.JavaScript.Classes

namespace Scaffold.JavaScript

def isAlone (text : List Char) (i n : Nat) : Bool :=
  !(text.take i).getLast?.any isNamePart && !(text.drop (i + n)).head?.any isNamePart

def runStart (text : List Char) (i : Nat) : Nat := ((text.take i).rdropWhile isNamePart).length

/-- What stands at a place can begin a name, and it is `$` just if a character of a word stands before it. -/
def Begins (text : List Char) (k : Nat) : Prop :=
  ∃ c, (text.drop k).head? = some c ∧ isNameStart c ∧ (c = '$' ↔ (text.take k).getLast?.any Text.isWordChar)

/-- A name that is found at a place of a text. -/
structure NamedAt (text : List Char) (i : Nat) (name : String) : Prop where
  isName : isName name
  spelled : name.toList <+: text.drop i
  stops : (text.drop (i + name.length)).head?.any isNamePart = false
  isAlone_iff : isAlone text i name.length ↔ Begins text (runStart text i)

/-- The methods of a class: the places of the text where they begin, and their names. -/
def methodSitesOf (text : List Char) (m : Match) : List (Nat × String) :=
  match bodyOf? m with
  | some body =>
    ((methodPattern.matches body).filter fun k => k.name ≠ "constructor").map fun k =>
      (text.length - m.stop.rest.length + (body.length - k.start.rest.length), k.name)
  | none => []

def methodSites (text : List Char) : List (List (Nat × String)) :=
  (classPattern.matches text).map (methodSitesOf text)

theorem toNat_lt_of_isNamePart {c : Char} (h : isNamePart c) : c.toNat < 128 := by
  have hlt {d : Char} (hle : c ≤ d) (hd : d.toNat < 128) : c.toNat < 128 := Nat.lt_of_le_of_lt hle hd
  simp only [isNamePart, Char.isAlphanum, Bool.or_eq_true, beq_iff_eq] at h
  rcases h with ((hletter | hdigit) | rfl) | rfl
  · rcases Bool.or_eq_true_iff.mp hletter with hupper | hlower
    · have hrange : 'A' ≤ c ∧ c ≤ 'Z' := of_decide_eq_true hupper
      exact hlt hrange.2 (by decide)
    · have hle : c ≤ 'z' := of_decide_eq_true (Bool.and_eq_true_iff.mp hlower).2
      exact hlt hle (by decide)
  · have hle : c ≤ '9' := of_decide_eq_true (Bool.and_eq_true_iff.mp hdigit).2
    exact hlt hle (by decide)
  · decide
  · decide

theorem isWordChar_eq {c : Char} (h : isNamePart c) : Text.isWordChar c = (c != '$') := by
  rw [Text.isWordChar, if_pos (toNat_lt_of_isNamePart h)]
  by_cases hc : c = '$'
  · subst hc
    decide
  · simp only [isNamePart, Bool.or_eq_true, beq_iff_eq, hc, or_false] at h
    rw [bne_iff_ne.mpr hc, Bool.or_eq_true, beq_iff_eq]
    exact h

variable {text body : List Char} {i j k : Nat} {parts : List (List Char)} {c : Char}

theorem takes_boundary_iff (hc : (text.drop i).head? = some c) (hstart : isNameStart c) :
    Piece.Takes text i [] .boundary ↔ (c = '$' ↔ (text.take i).getLast?.any Text.isWordChar) := by
  rw [Piece.Takes, hc, Option.any_some, isWordChar_eq (isNamePart_of_isNameStart hstart)]
  by_cases hsign : c = '$'
  · simp [hsign]
  · rw [bne_iff_ne.mpr hsign]
    simp [hsign]

theorem exists_of_reads_methodPattern (h : Pattern.Reads text i methodPattern parts) :
    ∃ c cs rest, parts = [] :: (c :: cs) :: rest ∧ Piece.Takes text i [] .boundary ∧ c :: cs <+: text.drop i ∧
      isNameStart c ∧ (∀ d ∈ cs, isNamePart d) ∧
      Pattern.Reads text (i + (c :: cs).length) (methodPattern.drop 2) rest := by
  cases h with
  | @cons _ _ _ _ _ inside takes rest =>
      cases rest with
      | @cons _ _ _ name rest inside' takes' reads =>
          obtain ⟨rfl, hboundary⟩ := takes
          obtain ⟨c, cs, rfl, hc, hcs⟩ := takes'
          exact ⟨c, cs, rest, rfl, ⟨rfl, hboundary⟩, inside', hc, hcs, reads⟩

theorem nameIn_methodPattern {name : List Char} {rest : List (List Char)} :
    methodPattern.nameIn ([] :: name :: rest) = String.ofList name := rfl

theorem Scan.exists_stop {p : Pattern} {os : List Occurrence} {o : Occurrence} (h : Scan p text i os)
    (ho : o ∈ os) (hij : i ≤ j) (hlt : j < o.start) (hoccurs : p.Occurs text j) :
    ∃ o' ∈ os, j < o'.stop ∧ o'.stop ≤ o.start := by
  induction h with
  | done _ => simp at ho
  | @found i o₁ os after none first rest ih =>
      rcases List.mem_cons.mp ho with rfl | ho
      · exact absurd hoccurs (none j hij hlt)
      · by_cases hstop : o₁.stop ≤ j
        · obtain ⟨o', ho', hj, hle⟩ := ih ho hstop
          exact ⟨o', List.mem_cons_of_mem o₁ ho', hj, hle⟩
        · exact ⟨o₁, List.mem_cons_self .., by omega, (rest.of_mem o ho).1⟩

theorem brace_of_reads_methodPattern (h : Pattern.Reads text i methodPattern parts) :
    ∃ n, i + parts.flatten.length = n + 1 ∧ text[n]? = some '\x7b' := by
  obtain ⟨l, r, rfl, hl, hr⟩ :=
    Pattern.Reads.split (p := methodPattern.dropLast) (q := [literal "\x7b"]) h
  cases hr with
  | @cons _ _ _ part _ inside takes rest =>
      cases rest
      obtain rfl : part = ['\x7b'] := takes
      refine ⟨i + l.flatten.length, by simp; omega, ?_⟩
      obtain ⟨after, hafter⟩ := inside
      rw [← List.head?_drop, ← hafter]
      rfl

/-- A name that is found is followed by a blank or a parenthesis. -/
theorem not_isNamePart_after {rest : List (List Char)}
    (h : Pattern.Reads text i (methodPattern.drop 2) rest) :
    ∃ c, (text.drop i).head? = some c ∧ isNamePart c = false := by
  have hne : text.drop i ≠ [] := by
    intro hnil
    have hpre := h.flatten_isPrefix
    rw [hnil, List.prefix_nil] at hpre
    cases h with
    | cons inside takes rest =>
        cases rest with
        | cons inside' takes' rest =>
            obtain ⟨between, rfl, -⟩ := takes'
            simp at hpre
  obtain ⟨c, cs, hcs⟩ := List.exists_cons_of_ne_nil hne
  have hc : (text.drop i).head? = some c := by rw [hcs]; rfl
  refine ⟨c, hc, ?_⟩
  rcases Bool.or_eq_true_iff.mp (h.opens hc) with hblank | hsign
  · exact (blank_apart hblank).2.1
  · obtain rfl : c = '(' := eq_of_beq hsign
    decide

theorem exists_run (text : List Char) (i : Nat) :
    ∃ u v, text.take i = u ++ v ∧ runStart text i = u.length ∧ text.drop u.length = v ++ text.drop i ∧
      (∀ c ∈ v, isNamePart c) ∧ u.getLast?.any isNamePart = false := by
  have hcut : (text.take i).rdropWhile isNamePart ++ (text.take i).rtakeWhile isNamePart = text.take i :=
    List.rdropWhile_append_rtakeWhile
  generalize hu : (text.take i).rdropWhile isNamePart = u at hcut
  generalize hv : (text.take i).rtakeWhile isNamePart = v at hcut
  have htext : text = u ++ (v ++ text.drop i) := by
    rw [← List.append_assoc, hcut, List.take_append_drop]
  refine ⟨u, v, hcut.symm, congrArg List.length hu, ?_, fun c hc => ?_, ?_⟩
  · nth_rewrite 1 [htext]
    rw [List.drop_left]
  · rw [← hv] at hc
    exact List.mem_rtakeWhile_imp hc
  · rw [← hu]
    by_cases hnil : (text.take i).rdropWhile isNamePart = []
    · simp [hnil]
    · have hlast := List.rdropWhile_last_not isNamePart (text.take i) hnil
      rw [List.getLast?_eq_getLast_of_ne_nil hnil, Option.any_some]
      simpa using hlast

/-- No method ends among characters of names, so the search would have come to the first of them before. -/
theorem not_occurs_of_run {found : List Occurrence} {o : Occurrence} (hscan : Scan methodPattern body 0 found)
    (ho : o ∈ found) (hlt : k < o.start)
    (hrun : ∀ n d, k ≤ n → n < o.start → body[n]? = some d → isNamePart d) : ¬ methodPattern.Occurs body k := by
  intro hoccurs
  obtain ⟨o', ho', hstop, hle⟩ := hscan.exists_stop ho (Nat.zero_le k) hlt hoccurs
  obtain ⟨n, hn, hbrace⟩ := brace_of_reads_methodPattern (hscan.of_mem o' ho').2.1
  rw [Occurrence.stop] at hstop hle
  exact absurd (hrun n _ (by omega) (by omega) hbrace) (by decide)

/-- A method that is read at the end of a run of characters of names is also read at its beginning, if a name
can begin there. -/
theorem occurs_of_run {v : List Char} {b : Char}
    (hdrop : body.drop k = b :: v ++ body.drop i) (hi : k + (b :: v).length = i)
    (hrun : ∀ c ∈ b :: v, isNamePart c) (hb : isNameStart b)
    (hsign : b = '$' ↔ (body.take k).getLast?.any Text.isWordChar)
    (h : Pattern.Reads body i methodPattern parts) : methodPattern.Occurs body k := by
  obtain ⟨c, cs, rest, rfl, -, inside, hc, hcs, hrest⟩ := exists_of_reads_methodPattern h
  have hhead : (body.drop k).head? = some b := by rw [hdrop]; rfl
  refine ⟨[] :: (b :: v ++ c :: cs) :: rest, .cons List.nil_prefix ((takes_boundary_iff hhead hb).mpr hsign)
    (.cons ?_ ⟨b, v ++ c :: cs, rfl, hb, ?_⟩ ?_)⟩
  · rw [List.length_nil, Nat.add_zero, hdrop]
    exact (List.prefix_append_right_inj _).mpr inside
  · intro x hx
    rcases List.mem_append.mp hx with hx | hx
    · exact hrun x (List.mem_cons_of_mem b hx)
    · rcases List.mem_cons.mp hx with rfl | hx
      · exact isNamePart_of_isNameStart hc
      · exact hcs x hx
  · have hplace : k + ([] : List Char).length + (b :: v ++ c :: cs).length = i + (c :: cs).length := by
      rw [List.length_nil, List.length_append]
      omega
    rw [hplace]
    exact hrest

/-- A name stands alone just if the run of characters that it lies in could be read as a name from its
beginning. -/
theorem isAlone_iff_begins {found : List Occurrence} {o : Occurrence} {c : Char} {cs : List Char}
    {rest : List (List Char)} (hscan : Scan methodPattern body 0 found) (ho : o ∈ found)
    (hparts : o.parts = [] :: (c :: cs) :: rest) :
    isAlone body o.start (c :: cs).length ↔ Begins body (runStart body o.start) := by
  have hreads := (hscan.of_mem o ho).2.1
  have hlt := hreads.lt_length (by decide)
  obtain ⟨c', cs', rest', heq, hboundary, ⟨after, hafter⟩, hc, -, hrest⟩ := exists_of_reads_methodPattern hreads
  rw [hparts, List.cons.injEq, List.cons.injEq, List.cons.injEq] at heq
  obtain ⟨-, ⟨rfl, rfl⟩, rfl⟩ := heq
  have hhead : (body.drop o.start).head? = some c := by
    rw [← hafter]
    rfl
  obtain ⟨d, hd, hdpart⟩ := not_isNamePart_after hrest
  obtain ⟨u, v, htake, hstart, hv, hrun, hlast⟩ := exists_run body o.start
  have hlength : u.length + v.length = o.start := by
    rw [← List.length_append, ← htake, List.length_take_of_le hlt.le]
  rw [isAlone, hd, Option.any_some, hdpart, Bool.not_false, Bool.and_true, Bool.not_eq_true', hstart]
  constructor
  · intro hbefore
    obtain rfl : v = [] := by
      by_contra hne
      rw [htake, List.getLast?_append_of_ne_nil _ hne, List.getLast?_eq_getLast_of_ne_nil hne, Option.any_some,
        hrun _ (List.getLast_mem hne)] at hbefore
      cases hbefore
    rw [List.length_nil, Nat.add_zero] at hlength
    rw [hlength]
    exact ⟨c, hhead, hc, (takes_boundary_iff hhead hc).mp hboundary⟩
  · rintro ⟨b, hb, hbstart, hbsign⟩
    cases v with
    | nil => rwa [htake, List.append_nil]
    | cons b' v =>
        obtain rfl : b' = b := by
          rw [hv] at hb
          exact Option.some.inj hb
        have hearlier := occurs_of_run hv hlength hrun hbstart hbsign hreads
        refine absurd hearlier (not_occurs_of_run hscan ho (by rw [List.length_cons] at hlength; omega) ?_)
        intro n x hn hno hx
        rw [← Nat.add_sub_cancel' hn, ← List.getElem?_drop, hv, List.getElem?_append_left (by omega)] at hx
        exact hrun x (List.mem_of_getElem? hx)

theorem take_inner (a z : List Char) (hi : i ≤ body.length) :
    (a ++ (body ++ z)).take (a.length + i) = a ++ body.take i := by
  rw [List.take_length_add_append, List.take_append_of_le_length hi]

theorem drop_inner (a z : List Char) (hi : i ≤ body.length) :
    (a ++ (body ++ z)).drop (a.length + i) = body.drop i ++ z := by
  rw [List.drop_length_add_append, List.drop_append_of_le_length hi]

theorem getLast?_take_inner (a z : List Char) (hpos : 0 < i) (hi : i ≤ body.length) :
    ((a ++ (body ++ z)).take (a.length + i)).getLast? = (body.take i).getLast? := by
  have hne : body.take i ≠ [] := by
    rw [← List.length_pos_iff, List.length_take_of_le hi]
    exact hpos
  rw [take_inner a z hi, List.getLast?_append_of_ne_nil _ hne]

theorem head?_drop_inner (a z : List Char) (hi : i < body.length) :
    ((a ++ (body ++ z)).drop (a.length + i)).head? = (body.drop i).head? := by
  have hne : body.drop i ≠ [] := by
    rw [ne_eq, List.drop_eq_nil_iff]
    omega
  rw [drop_inner a z hi.le, List.head?_append_of_ne_nil _ hne]

theorem runStart_inner (a z : List Char) (hhead : body.head?.any isNamePart = false) (hpos : 0 < i)
    (hi : i ≤ body.length) :
    runStart (a ++ (body ++ z)) (a.length + i) = a.length + runStart body i ∧ 0 < runStart body i := by
  have hne : (body.take i).rdropWhile isNamePart ≠ [] := by
    rw [ne_eq, List.rdropWhile_eq_nil_iff]
    intro hall
    obtain ⟨c, cs, rfl⟩ := List.exists_cons_of_length_pos (Nat.lt_of_lt_of_le hpos hi)
    have hc := hall c (by rw [← Nat.succ_pred_eq_of_pos hpos]; exact List.mem_cons_self ..)
    rw [List.head?_cons, Option.any_some, hc] at hhead
    cases hhead
  refine ⟨?_, List.length_pos_iff.mpr hne⟩
  have hdrop : (body.take i).reverse.dropWhile isNamePart ≠ [] := by
    intro hnil
    rw [List.rdropWhile, hnil] at hne
    exact hne rfl
  rw [runStart, take_inner a z hi, List.rdropWhile, List.reverse_append, List.dropWhile_append,
    if_neg (by simpa using hdrop), List.reverse_append, List.reverse_reverse, List.length_append]
  rfl

theorem namedAt_inner (a z : List Char) {found : List Occurrence} {o : Occurrence}
    (hhead : body.head?.any isNamePart = false) (hscan : Scan methodPattern body 0 found) (ho : o ∈ found) :
    NamedAt (a ++ (body ++ z)) (a.length + o.start) (methodPattern.nameIn o.parts) := by
  have hname : .name ∈ methodPattern := by decide
  have hreads := (hscan.of_mem o ho).2.1
  have hlt := hreads.lt_length hname
  obtain ⟨c, cs, rest, hparts, -, inside, hc, -, hrest⟩ := exists_of_reads_methodPattern hreads
  have hspelled : (methodPattern.nameIn o.parts).toList = c :: cs := by
    rw [hparts, nameIn_methodPattern, String.toList_ofList]
  have hlength : (methodPattern.nameIn o.parts).length = (c :: cs).length := by
    rw [← String.length_toList, hspelled]
  have hpos : 0 < o.start := by
    by_contra hzero
    obtain ⟨after, hafter⟩ := inside
    rw [Nat.eq_zero_of_not_pos hzero, List.drop_zero] at hafter
    rw [← hafter] at hhead
    simp [isNamePart_of_isNameStart hc] at hhead
  obtain ⟨d, hd, hdpart⟩ := not_isNamePart_after hrest
  have hstop : o.start + (c :: cs).length < body.length := by
    by_contra hle
    rw [List.drop_eq_nil_of_le (by omega)] at hd
    cases hd
  obtain ⟨hrun, hrunPos⟩ := runStart_inner a z hhead hpos hlt.le
  have hrunLe : runStart body o.start ≤ o.start :=
    (List.rdropWhile_prefix _ _).length_le.trans (List.length_take_le _ _)
  refine ⟨hreads.isName_nameIn hname, ?_, ?_, ?_⟩
  · rw [hspelled, drop_inner a z hlt.le]
    exact inside.trans (List.prefix_append _ _)
  · rw [hlength, Nat.add_assoc, head?_drop_inner a z hstop, hd, Option.any_some, hdpart]
  · rw [hlength, isAlone, getLast?_take_inner a z hpos hlt.le, Nat.add_assoc, head?_drop_inner a z hstop, ← isAlone,
      isAlone_iff_begins hscan ho hparts, hrun, Begins, Begins, getLast?_take_inner a z hrunPos (by omega),
      head?_drop_inner a z (by omega)]

theorem methodSitesOf_eq {o : Occurrence} {found : List Occurrence} (hstop : o.stop ≤ text.length)
    (hbody : bodyOf? (classPattern.matchOf 1 text o) = some body) (hscan : Scan methodPattern body 0 found) :
    methodSitesOf text (classPattern.matchOf 1 text o) =
      (found.filter fun m => methodPattern.nameIn m.parts ≠ "constructor").map fun m =>
        (o.stop + m.start, methodPattern.nameIn m.parts) := by
  obtain ⟨found', hscan', hmatches⟩ :=
    Pattern.matches_eq count_name_methodPattern apart_methodPattern body
  obtain rfl := hscan.unique hscan'
  rw [methodSitesOf, hbody]
  simp only [hmatches, List.filter_map, List.map_map]
  refine List.map_congr_left fun m hm => ?_
  have hlt := hscan.start_lt_length (by decide) m (List.mem_of_mem_filter hm)
  have hrest : (classPattern.matchOf 1 text o).stop.rest = text.drop o.stop := Cursor.place_rest
  have hrest' : (methodPattern.matchOf 1 body m).start.rest = body.drop m.start := Cursor.place_rest
  simp only [Function.comp_apply, hrest, hrest', List.length_drop, Nat.sub_sub_self hstop,
    Nat.sub_sub_self hlt.le]
  rfl

theorem exists_drop_stop {o : Occurrence} (h : bodyOf? (classPattern.matchOf 1 text o) = some body) :
    ∃ post, text.drop o.stop = body ++ '}' :: post := by
  obtain ⟨post, hcut, -⟩ := exists_of_bodyOf? h
  rw [Pattern.matchOf, Cursor.place_rest] at hcut
  exact ⟨post, hcut⟩

theorem head?_of_drop_stop {o : Occurrence} {rest : List Char} (h : classPattern.First text o.start o.parts)
    (hcut : text.drop o.stop = body ++ rest) : body.head?.any isNamePart = false := by
  rw [Option.any_eq_false]
  intro c hc
  have hnext : (text.drop o.stop).head? = some c := by
    rw [hcut, List.head?_append, hc]
    rfl
  simpa using Pattern.First.not_isNamePart (p := [.boundary, literal "class", .someBlanks]) h hnext

theorem methods_eq_sites {o : Occurrence} (hstop : o.stop ≤ text.length) :
    (classOf (classPattern.matchOf 1 text o)).value.methods =
      (methodSitesOf text (classPattern.matchOf 1 text o)).map fun site =>
        .bare site.2 (lineAt text site.1) := by
  cases hbody : bodyOf? (classPattern.matchOf 1 text o) with
  | none => rw [classOf, methodSitesOf, hbody]; rfl
  | some body =>
      obtain ⟨post, hcut⟩ := exists_drop_stop hbody
      have htake : (text.drop o.stop).take body.length = body := by rw [hcut, List.take_left]
      obtain ⟨found, hscan, -, hfound⟩ := methodsIn_eq text o.stop body.length
      rw [htake] at hscan hfound
      rw [methodSitesOf_eq hstop hbody hscan, List.map_map, classOf, hbody]
      exact hfound

/-- Each method of the outline is found at a place of the text and has the name that stands there. The name
goes on as far as it can, but it stands alone only if the run of characters around it begins as a name does
at a word boundary. -/
theorem methods_namedAt (path text : String) :
    (outline path text).value.classes.map (·.methods) =
        (methodSites text.toList).map (·.map fun site => .bare site.2 (lineAt text.toList site.1)) ∧
      ∀ sites ∈ methodSites text.toList, ∀ site ∈ sites, NamedAt text.toList site.1 site.2 := by
  obtain ⟨os, hscan, hmatches⟩ :=
    Pattern.matches_eq count_name_classPattern apart_classPattern text.toList
  have hstop (o : Occurrence) (ho : o ∈ os) : o.stop ≤ text.toList.length := by
    have hlt := hscan.start_lt_length (by decide) o ho
    have hle := (hscan.of_mem o ho).2.1.flatten_isPrefix.length_le
    rw [List.length_drop] at hle
    rw [Occurrence.stop]
    omega
  constructor
  · rw [outline, methodSites, hmatches]
    simp only [List.map_map]
    exact List.map_congr_left fun o ho => methods_eq_sites (hstop o ho)
  · intro sites hsites site hsite
    rw [methodSites, hmatches, List.map_map] at hsites
    obtain ⟨o, ho, rfl⟩ := List.mem_map.mp hsites
    cases hbody : bodyOf? (classPattern.matchOf 1 text.toList o) with
    | none => simp [methodSitesOf, hbody] at hsite
    | some body =>
        obtain ⟨post, hcut⟩ := exists_drop_stop hbody
        obtain ⟨found, hfound⟩ :=
          Pattern.exists_scan_from count_name_methodPattern apart_methodPattern body 0
        rw [Function.comp_apply, methodSitesOf_eq (hstop o ho) hbody hfound] at hsite
        obtain ⟨m, hm, rfl⟩ := List.mem_map.mp hsite
        have hhead := head?_of_drop_stop (hscan.of_mem o ho).2 hcut
        have hnamed := namedAt_inner (text.toList.take o.stop) ('}' :: post) hhead hfound
          (List.mem_of_mem_filter hm)
        rwa [← hcut, List.take_append_drop, List.length_take_of_le (hstop o ho)] at hnamed

def signedMethod : String := "class A\x7b$b()\x7b\x7d\x7d"

theorem methods_namedAt_signedMethod :
    [(9, "b")] ∈ methodSites signedMethod.toList ∧ NamedAt signedMethod.toList 9 "b" := by
  have hmem : [(9, "b")] ∈ methodSites signedMethod.toList := by decide +kernel
  exact ⟨hmem, (methods_namedAt "a.js" signedMethod).2 _ hmem (9, "b") (List.mem_singleton_self _)⟩

/-- A method whose name begins with `$` is listed without that sign. -/
theorem methods_signedMethod :
    (outline "a.js" signedMethod).value.classes.map (·.methods.map (·.name)) = [["b"]] ∧
      methodSites signedMethod.toList = [[(9, "b")]] ∧ isAlone signedMethod.toList 9 1 = false := by
  decide +kernel

end Scaffold.JavaScript
