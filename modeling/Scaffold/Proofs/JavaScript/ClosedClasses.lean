import Scaffold.Proofs.JavaScript.Appending
import Scaffold.Proofs.JavaScript.Classes

namespace Scaffold.JavaScript

def AfterBlank (u : List Char) : Prop :=
  ∃ c d, [c, d].Sublist u ∧ Text.isBlank c ∧ Text.isBlank d = false

theorem exists_of_reads_classPattern {text : List Char} {i : Nat} {parts : List (List Char)}
    (h : Pattern.Reads text i classPattern parts) :
    ∃ b bs c cs, parts = [[], "class".toList, b :: bs, c :: cs] ∧ (∀ d ∈ b :: bs, Text.isBlank d) ∧
      isNameStart c ∧ Pattern.Reads text i classPattern [[], "class".toList, b :: bs, [c]] := by
  cases h with
  | @cons _ _ _ _ _ inside takes rest =>
      cases rest with
      | @cons _ _ _ keyword _ inside' takes' rest =>
          cases rest with
          | @cons _ _ _ blanks _ inside'' takes'' rest =>
              cases rest with
              | @cons _ _ _ name _ inside''' takes''' rest =>
                  cases rest
                  obtain ⟨rfl, hboundary⟩ := takes
                  obtain rfl : keyword = "class".toList := takes'
                  obtain ⟨b, bs, rfl⟩ := List.exists_cons_of_ne_nil takes''.1
                  obtain ⟨c, cs, rfl, hc, -⟩ := takes'''
                  have hfirst : [c] <+: c :: cs := ⟨cs, rfl⟩
                  exact ⟨b, bs, c, cs, rfl, takes''.2, hc,
                    .cons inside ⟨rfl, hboundary⟩ (.cons inside' rfl (.cons inside'' takes''
                      (.cons (hfirst.trans inside''') ⟨c, [], rfl, hc, by simp⟩ .nil)))⟩

/-- A heading is sealed by the first character of its name, the first one after the blanks. -/
theorem sealed_classPattern : Pattern.Sealed classPattern AfterBlank := by
  refine ⟨?_, fun h => ?_, fun ⟨parts, h⟩ => ?_⟩
  · rintro u v hsub ⟨c, d, hcd, hc, hd⟩
    exact ⟨c, d, hcd.trans hsub, hc, hd⟩
  · obtain ⟨b, bs, c, cs, rfl, hblanks, hc, -⟩ := exists_of_reads_classPattern h
    refine ⟨b, c, ?_, hblanks b (List.mem_cons_self ..), ?_⟩
    · have hpair : [b, c].Sublist (b :: bs ++ c :: cs) :=
        List.cons_sublist_cons.mpr (List.singleton_sublist.mpr (by simp))
      simpa using hpair.trans (List.sublist_append_right "class".toList _)
    · by_contra hblank
      simp [(blank_apart (Bool.eq_true_of_not_eq_false hblank)).2.2.1] at hc
  · obtain ⟨b, bs, c, cs, rfl, hblanks, hc, hshort⟩ := exists_of_reads_classPattern h
    refine ⟨_, hshort, ?_⟩
    have hcut : [[], "class".toList, b :: bs, [c]].flatten = ("class".toList ++ b :: bs) ++ [c] := by simp
    rw [hcut, List.dropLast_concat]
    rintro ⟨x, y, hxy, hx, hy⟩
    obtain ⟨l, r, hlr, hl, hr⟩ := List.sublist_append_iff.mp hxy
    rcases List.append_eq_cons_iff.mp hlr.symm with ⟨rfl, rfl⟩ | ⟨l, rfl, -⟩
    · simp [hblanks y (hr.subset (by simp))] at hy
    · have hkeyword : "class".toList.all fun c => !Text.isBlank c := by decide
      have := List.all_eq_true.mp hkeyword x (hl.subset (List.mem_cons_self ..))
      simp [hx] at this

/-- The headings up to one that ends inside of a text are found in every longer text. -/
theorem scan_classPattern_append {s t : List Char} {l r : List Occurrence} {o : Occurrence}
    (hscan : Scan classPattern s 0 (l ++ o :: r)) (hstop : o.stop < s.length) :
    ∃ r', Scan classPattern (s ++ t) 0 (l ++ o :: r') := by
  have hbefore (o' : Occurrence) (ho' : o' ∈ l ++ [o]) : o'.stop < s.length := by
    rcases List.mem_append.mp ho' with hl | ho
    · have hle := (List.pairwise_append.mp hscan.pairwise).2.2 o' hl o (List.mem_cons_self ..)
      have : o.start ≤ o.stop := Nat.le_add_right _ _
      omega
    · rwa [List.mem_singleton.mp ho]
  have hsplit : l ++ o :: r = (l ++ [o]) ++ r := by simp
  rw [hsplit] at hscan
  obtain ⟨r', hr'⟩ : ∃ r', Scan classPattern (s ++ t) 0 ((l ++ [o]) ++ r') := by
    refine sealed_classPattern.scan_append count_name_classPattern apart_classPattern (by decide) hscan ?_
    intro o' ho' c piece hc hlast
    obtain rfl : Piece.name = piece := Option.some.inj hlast
    rw [List.head?_drop, List.getElem?_append_left (hbefore o' ho'), ← List.head?_drop] at hc
    have hfirst := (hscan.of_mem o' (List.mem_append_left r ho')).2
    exact Pattern.First.not_isNamePart (p := [.boundary, literal "class", .someBlanks]) hfirst hc
  exact ⟨r', by simpa using hr'⟩

theorem closingFrom_append {depth : Int} {offset e : Nat} {cs : List Char}
    (h : closingFrom depth offset cs = some e) (more : List Char) :
    closingFrom depth offset (cs ++ more) = some e := by
  induction cs generalizing depth offset with
  | nil => simp [closingFrom] at h
  | cons c cs ih =>
      rw [List.cons_append, closingFrom]
      rw [closingFrom] at h
      split_ifs at h ⊢
      · exact ih h
      · exact h
      · exact ih h
      · exact ih h

theorem bodyOf?_append {m m' : Match} {t body : List Char} (hrest : m'.stop.rest = m.stop.rest ++ t)
    (h : bodyOf? m = some body) : bodyOf? m' = some body := by
  obtain ⟨post, hcut, hsize⟩ := exists_of_bodyOf? h
  have hrest' : m'.stop.rest = body ++ ('}' :: post ++ t) := by rw [hrest, hcut, List.append_assoc]
  exact bodyOf?_of_closingFrom hrest' (hrest ▸ closingFrom_append hsize t)

theorem Cursor.place_append {s : List Char} {i : Nat} (t : List Char) (line : Nat) (hi : i ≤ s.length) :
    place line (s ++ t) i = { place line s i with rest := s.drop i ++ t } := by
  rw [place, place, byteAt, byteAt, List.take_append_of_le_length hi, List.drop_append_of_le_length hi]

theorem classOf_append {s : List Char} {o : Occurrence} {body : List Char} (t : List Char)
    (hstop : o.stop ≤ s.length) (h : bodyOf? (classPattern.matchOf 1 s o) = some body) :
    classOf (classPattern.matchOf 1 (s ++ t) o) = classOf (classPattern.matchOf 1 s o) := by
  have hstart : o.start ≤ s.length := (Nat.le_add_right _ _).trans hstop
  have hplaces : classPattern.matchOf 1 (s ++ t) o =
      ⟨classPattern.nameIn o.parts, { Cursor.place 1 s o.start with rest := s.drop o.start ++ t },
        { Cursor.place 1 s o.stop with rest := s.drop o.stop ++ t }⟩ := by
    rw [Pattern.matchOf, Cursor.place_append t 1 hstart, Cursor.place_append t 1 hstop]
  have hrest : (classPattern.matchOf 1 (s ++ t) o).stop.rest = (classPattern.matchOf 1 s o).stop.rest ++ t := by
    rw [hplaces, Pattern.matchOf, Cursor.place_rest]
  have hbody := bodyOf?_append hrest h
  rw [classOf, classOf, h, hbody, hplaces]
  rfl

def isClosed (text : String) (m : Match) : Bool := (blockEnd? text m.stop.offset).isSome

theorem classes_getElem? (path text : String) (i : Nat) :
    (outline path text).value.classes[i]? =
      (classPattern.matches text.toList)[i]?.map fun m => (classOf m).value := by
  rw [outline, List.getElem?_map, List.getElem?_map, Option.map_map]
  rfl

/-- A class that is closed in a text is the same class of every longer text. -/
theorem classes_append (path s t : String) (i : Nat)
    (h : (classPattern.matches s.toList)[i]?.any (isClosed s)) :
    ∃ c, (outline path s).value.classes[i]? = some c ∧
      (outline path (s ++ t)).value.classes[i]? = some c := by
  obtain ⟨os, hscan, hfound⟩ :=
    Pattern.matches_eq count_name_classPattern apart_classPattern s.toList
  obtain ⟨os', hscan', hfound'⟩ :=
    Pattern.matches_eq count_name_classPattern apart_classPattern (s.toList ++ t.toList)
  rw [classes_getElem?, classes_getElem?, String.toList_append, hfound, hfound']
  rw [hfound, List.getElem?_map] at h
  cases ho : os[i]? with
  | none => simp [ho] at h
  | some o =>
      rw [ho, Option.map_some, Option.any_some, isClosed] at h
      obtain ⟨e, he⟩ := Option.isSome_iff_exists.mp h
      obtain ⟨n, -, hbrace, hbody⟩ :=
        bodyOf?_eq_some (m := classPattern.matchOf 1 s.toList o) Cursor.place_rest he
      have hstop : o.stop < s.toList.length := by
        have := (List.getElem?_eq_some_iff.mp hbrace).1
        omega
      obtain ⟨hi, rfl⟩ := List.getElem?_eq_some_iff.mp ho
      have hsplit : os.take i ++ os[i] :: os.drop (i + 1) = os := by
        rw [List.getElem_cons_drop, List.take_append_drop]
      obtain ⟨r', hr'⟩ := scan_classPattern_append (t := t.toList) (hsplit.symm ▸ hscan) hstop
      obtain rfl := hr'.unique hscan'
      have hsame : (os.take i ++ os[i] :: r')[i]? = some os[i] := by
        rw [List.getElem?_append_right (List.length_take_le _ _), List.length_take_of_le hi.le, Nat.sub_self,
          List.getElem?_cons_zero]
      refine ⟨(classOf (classPattern.matchOf 1 s.toList os[i])).value, ?_, ?_⟩
      · rw [List.getElem?_map, ho]
        rfl
      · rw [List.getElem?_map, hsame, Option.map_some, Option.map_some,
          classOf_append t.toList hstop.le hbody]

def openClassText : String := "class A\x7bm()\x7b\x7d\x7dclass B\x7bn()\x7b\x7dclass"

def closingText : String := " C\x7b\x7d\x7d"

/-- The text that follows closes the second class and names a third one, of which only the keyword stood in
the first text. -/
theorem classes_append_openClass :
    (classPattern.matches openClassText.toList)[0]?.any (isClosed openClassText) ∧
      ∃ c, (outline "a.js" openClassText).value.classes[0]? = some c ∧
        (outline "a.js" (openClassText ++ closingText)).value.classes[0]? = some c :=
  ⟨by decide +kernel, classes_append "a.js" openClassText closingText 0 (by decide +kernel)⟩

end Scaffold.JavaScript
