import Scaffold.Proofs.JavaScript.Reading

namespace Scaffold.JavaScript

namespace Cursor

def place (line : Nat) (text : List Char) (i : Nat) : Cursor where
  before := (text.take i).getLast?
  offset := byteAt text i
  line := line + (text.take i).count '\n'
  rest := text.drop i

variable {line : Nat} {text : List Char} {i : Nat}

@[simp] theorem place_before : (place line text i).before = (text.take i).getLast? := by
  rw [place]

@[simp] theorem place_rest : (place line text i).rest = text.drop i := by
  rw [place]

theorem place_zero : place line text 0 = { start text with line } := by
  simp [place, start, byteAt]

theorem step_place {c : Char} {cs : List Char} (h : text.drop i = c :: cs) :
    (place line text i).step c cs = place line text (i + 1) := by
  have htake : text.take (i + 1) = text.take i ++ [c] := by
    have hget : text[i]? = some c := by
      rw [← List.head?_drop, h]
      rfl
    rw [List.take_add_one, hget]
    rfl
  have hdrop : text.drop (i + 1) = cs := by
    rw [← List.drop_drop, h]
    rfl
  have hbyte : byteAt text (i + 1) = byteAt text i + c.utf8Size := by
    rw [byteAt, htake, String.ofList_append, String.utf8ByteSize_append, byteAt,
      ← String.singleton_eq_ofList, String.utf8ByteSize_singleton]
  by_cases hc : c = '\n'
  · simp [step, place, htake, hdrop, hbyte, hc, Nat.add_assoc]
  · simp [step, place, htake, hdrop, hbyte, hc]

theorem skip_place (n : Nat) (h : n ≤ (text.drop i).length) :
    (place line text i).skip n = place line text (i + n) := by
  induction n generalizing i with
  | zero => simp [skip]
  | succ n ih =>
      cases hrest : text.drop i with
      | nil => simp [hrest] at h
      | cons c cs =>
          have hskip : (place line text i).skip (n + 1) = ((place line text i).step c cs).skip n := by
            rw [skip]
            simp [hrest]
          rw [hskip, step_place hrest, ih, Nat.add_right_comm, Nat.add_assoc]
          simp only [List.length_drop] at h ⊢
          omega

end Cursor

namespace Piece

def goesOn (c : Char) : Piece → Bool
  | blanks | someBlanks => Text.isBlank c
  | name => isNamePart c
  | word => Text.isWordChar c
  | boundary | text _ | parameters => false

variable {q : Char → Bool} {part after : List Char}

theorem all_take_run (q : Char → Bool) (cs : List Char) : ∀ c ∈ cs.take (run q cs), q c := by
  intro c hc
  rw [run, ← List.prefix_iff_eq_take.mp (List.takeWhile_prefix q)] at hc
  exact List.all_eq_true.mp List.all_takeWhile c hc

theorem take_run_ne_nil {cs : List Char} (h : ¬ run q cs = 0) : cs.take (run q cs) ≠ [] := by
  intro hnil
  rcases List.take_eq_nil_iff.mp hnil with h0 | rfl
  · exact h h0
  · exact h rfl

theorem run_le_length (q : Char → Bool) (cs : List Char) : run q cs ≤ cs.length :=
  (List.takeWhile_prefix q).length_le

theorem run_append (h : ∀ c ∈ part, q c) : run q (part ++ after) = part.length + run q after := by
  rw [run, List.takeWhile_append_of_pos h, List.length_append, run]

theorem length_le_run (h : ∀ c ∈ part, q c) : part.length ≤ run q (part ++ after) := by
  rw [run_append h]
  exact Nat.le_add_right _ _

theorem head_of_lt_run (h : ∀ c ∈ part, q c) (hlt : part.length < run q (part ++ after)) :
    ∃ c, after.head? = some c ∧ q c := by
  rw [run_append h] at hlt
  cases after with
  | nil => simp [run] at hlt
  | cons c cs =>
      refine ⟨c, rfl, ?_⟩
      by_contra hc
      simp [run, hc] at hlt

/-- A run that ends before the text does ends at a character that it does not take. -/
theorem take_run_add_one {cs : List Char} (h : run q cs < cs.length) :
    ∃ c, cs.take (run q cs + 1) = cs.take (run q cs) ++ [c] ∧ ¬ q c := by
  induction cs with
  | nil => simp at h
  | cons c cs ih =>
      by_cases hc : q c
      · have hrun : run q (c :: cs) = run q cs + 1 := by simp [run, hc]
        rw [hrun, List.length_cons] at h
        obtain ⟨d, htake, hd⟩ := ih (Nat.lt_of_succ_lt_succ h)
        rw [hrun]
        exact ⟨d, congrArg (c :: ·) htake, hd⟩
      · have hrun : run q (c :: cs) = 0 := by simp [run, hc]
        rw [hrun]
        exact ⟨c, rfl, hc⟩

variable {line : Nat} {text : List Char} {i n : Nat} {piece : Piece}

theorem takes_of_length? (h : piece.length? (.place line text i) = some n) :
    n ≤ (text.drop i).length ∧ piece.Takes text i ((text.drop i).take n) := by
  cases piece with
  | boundary =>
      simp only [length?, Cursor.place_before, Cursor.place_rest, bne_iff_ne, ne_eq,
        Option.ite_none_right_eq_some, Option.some.injEq] at h
      obtain ⟨hne, rfl⟩ := h
      exact ⟨Nat.zero_le _, rfl, hne⟩
  | text cs =>
      simp only [length?, Cursor.place_rest, List.isPrefixOf_iff_prefix,
        Option.ite_none_right_eq_some, Option.some.injEq] at h
      obtain ⟨hpre, rfl⟩ := h
      exact ⟨hpre.length_le, (List.prefix_iff_eq_take.mp hpre).symm⟩
  | blanks =>
      simp only [length?, Cursor.place_rest, Option.some.injEq] at h
      subst h
      exact ⟨run_le_length _ _, all_take_run _ _⟩
  | someBlanks =>
      simp only [length?, Cursor.place_rest, Option.ite_none_left_eq_some, Option.some.injEq] at h
      obtain ⟨hne, rfl⟩ := h
      exact ⟨run_le_length _ _, take_run_ne_nil hne, all_take_run _ _⟩
  | name =>
      cases hrest : text.drop i with
      | nil => simp [length?, hrest] at h
      | cons c cs =>
          simp only [length?, Cursor.place_rest, hrest, Option.ite_none_right_eq_some,
            Option.some.injEq] at h
          obtain ⟨hc, rfl⟩ := h
          exact ⟨Nat.succ_le_succ (run_le_length _ _), c, _, rfl, hc, all_take_run _ _⟩
  | word =>
      simp only [length?, Cursor.place_rest, Option.ite_none_left_eq_some, Option.some.injEq] at h
      obtain ⟨hne, rfl⟩ := h
      exact ⟨run_le_length _ _, take_run_ne_nil hne, all_take_run _ _⟩
  | parameters =>
      simp only [length?, Cursor.place_rest] at h
      split at h
      next cs hrest =>
        simp only [Option.ite_none_right_eq_some, Option.some.injEq] at h
        obtain ⟨hlt, rfl⟩ := h
        obtain ⟨c, htake, hc⟩ := take_run_add_one hlt
        obtain rfl : c = ')' := by simpa using hc
        refine ⟨by rw [hrest, List.length_cons]; omega, cs.take (run (· ≠ ')') cs), ?_, ?_⟩
        · rw [hrest]
          exact congrArg ('(' :: ·) htake
        · intro hmem
          simpa using all_take_run (· ≠ ')') cs _ hmem
      next => simp at h

/-- A piece that takes a part is found by the search, which takes at least as much. Where it takes
more, the piece could go on with the character after the part. -/
theorem length?_of_takes (line : Nat) {part : List Char} (hpart : part <+: text.drop i)
    (h : piece.Takes text i part) :
    ∃ n, piece.length? (.place line text i) = some n ∧ part.length ≤ n ∧
      (part.length < n → ∃ c, (text.drop (i + part.length)).head? = some c ∧ piece.goesOn c) := by
  obtain ⟨after, hrest⟩ := hpart
  rw [drop_add_length hrest]
  cases piece with
  | boundary =>
      obtain ⟨rfl, hne⟩ := h
      refine ⟨0, ?_, Nat.le_refl _, fun hlt => absurd hlt (Nat.lt_irrefl _)⟩
      simp only [length?, Cursor.place_before, Cursor.place_rest, bne_iff_ne.mpr hne, ↓reduceIte]
  | text cs =>
      obtain rfl : part = cs := h
      refine ⟨part.length, ?_, Nat.le_refl _, fun hlt => absurd hlt (Nat.lt_irrefl _)⟩
      simp [length?, ← hrest]
  | blanks =>
      refine ⟨run Text.isBlank (part ++ after), ?_, length_le_run h, head_of_lt_run h⟩
      rw [length?, Cursor.place_rest, hrest]
  | someBlanks =>
      have hle : part.length ≤ run Text.isBlank (part ++ after) := length_le_run h.2
      have hpos := List.length_pos_iff.mpr h.1
      refine ⟨run Text.isBlank (part ++ after), ?_, hle, head_of_lt_run h.2⟩
      rw [length?, Cursor.place_rest, ← hrest, if_neg (by omega)]
  | name =>
      obtain ⟨c, cs, rfl, hc, hcs⟩ := h
      refine ⟨run isNamePart (cs ++ after) + 1, ?_, Nat.succ_le_succ (length_le_run hcs),
        fun hlt => head_of_lt_run hcs (Nat.lt_of_succ_lt_succ hlt)⟩
      simp [length?, ← hrest, hc]
  | word =>
      have hle : part.length ≤ run Text.isWordChar (part ++ after) := length_le_run h.2
      have hpos := List.length_pos_iff.mpr h.1
      refine ⟨run Text.isWordChar (part ++ after), ?_, hle, head_of_lt_run h.2⟩
      rw [length?, Cursor.place_rest, ← hrest, if_neg (by omega)]
  | parameters =>
      obtain ⟨inside, rfl, hinside⟩ := h
      have hall : ∀ c ∈ inside, !decide (c = ')') := by
        intro c hc
        simp only [Bool.not_eq_true', decide_eq_false_iff_not]
        exact fun he => hinside (he ▸ hc)
      have hrun : run (fun c => !decide (c = ')')) (inside ++ ')' :: after) = inside.length := by
        rw [run_append hall]
        simp [run]
      refine ⟨inside.length + 2, ?_, by simp, fun hlt => by simp at hlt⟩
      simp [length?, ← hrest, hrun]

end Piece

namespace Pattern

variable {p : Pattern} {line : Nat} {text : List Char} {i : Nat} {parts : List (List Char)}

/-- The characters that a text may begin with where a pattern is read. -/
def opens (c : Char) : Pattern → Bool
  | [] => true
  | .boundary :: p => opens c p
  | .text [] :: p => opens c p
  | .text (d :: _) :: _ => c == d
  | .blanks :: p => Text.isBlank c || opens c p
  | .someBlanks :: _ => Text.isBlank c
  | .name :: _ => isNameStart c
  | .word :: _ => Text.isWordChar c
  | .parameters :: _ => c == '('

/-- No piece but the last could go on with a character that the rest of the pattern begins with. -/
def Apart : Pattern → Prop
  | [] => True
  | piece :: p => (p = [] ∨ ∀ c, piece.goesOn c → ¬ opens c p) ∧ Apart p

theorem Reads.opens {c : Char} (h : Reads text i p parts) (hc : (text.drop i).head? = some c) :
    p.opens c := by
  have hhead {d : Char} {ds : List Char} {i : Nat} (hin : d :: ds <+: text.drop i)
      (hc : (text.drop i).head? = some c) : c = d := by
    obtain ⟨after, hrest⟩ := hin
    rw [← hrest] at hc
    exact (Option.some.inj hc).symm
  induction h with
  | nil => rfl
  | @cons i piece p part parts inside takes rest ih =>
      cases piece with
      | boundary =>
          obtain ⟨rfl, -⟩ := takes
          exact ih hc
      | text cs =>
          obtain rfl : part = cs := takes
          cases part with
          | nil => exact ih hc
          | cons d ds => simp [Pattern.opens, hhead inside hc]
      | blanks =>
          cases part with
          | nil => simp [Pattern.opens, ih hc]
          | cons d ds => simp [Pattern.opens, hhead inside hc, takes d]
      | someBlanks =>
          obtain ⟨d, ds, rfl⟩ := List.exists_cons_of_ne_nil takes.1
          simp [Pattern.opens, hhead inside hc, takes.2 d]
      | name =>
          obtain ⟨d, ds, rfl, hd, -⟩ := takes
          simp [Pattern.opens, hhead inside hc, hd]
      | word =>
          obtain ⟨d, ds, rfl⟩ := List.exists_cons_of_ne_nil takes.1
          simp [Pattern.opens, hhead inside hc, takes.2 d]
      | parameters =>
          obtain ⟨ds, rfl, -⟩ := takes
          simp [Pattern.opens, hhead inside hc]

theorem lookup_name {piece : Piece} {found : String} {part : List Char}
    (hone : List.count .name (piece :: p) ≤ 1) :
    (((piece :: p).zip (part :: parts)).lookup .name).elim found String.ofList =
      ((p.zip parts).lookup .name).elim (if piece = .name then String.ofList part else found)
        String.ofList := by
  rw [List.zip_cons_cons]
  by_cases hp : piece = .name
  · subst hp
    have hnone : (p.zip parts).lookup .name = none := by
      rw [List.count_cons_self] at hone
      have hmem : .name ∉ p := List.count_eq_zero.mp (Nat.le_zero.mp (Nat.le_of_succ_le_succ hone))
      rw [List.lookup_eq_none_iff]
      intro x hx
      exact bne_iff_ne.mpr fun he => hmem (he ▸ (List.of_mem_zip hx).1)
    rw [List.lookup_cons_self, hnone, if_pos rfl]
    rfl
  · rw [if_neg hp, List.lookup_cons, beq_eq_false_iff_ne.mpr (Ne.symm hp)]

/-- What the search takes at a place is the reading that counts, since another one would first differ
from it in a part that is shorter. -/
theorem first_of_matchAt? {found name : String} {k : Cursor} (hone : p.count .name ≤ 1)
    (h : p.matchAt? found (.place line text i) = some (name, k)) :
    ∃ parts, p.First text i parts ∧ name = ((p.zip parts).lookup .name).elim found String.ofList ∧
      k = .place line text (i + parts.flatten.length) := by
  induction p generalizing found i with
  | nil =>
      simp only [matchAt?, Option.some.injEq, Prod.mk.injEq] at h
      obtain ⟨rfl, rfl⟩ := h
      refine ⟨[], ⟨.nil, ?_⟩, rfl, rfl⟩
      intro others hothers
      cases hothers
      rfl
  | cons piece p ih =>
      rw [matchAt?] at h
      split at h
      next n hn =>
        obtain ⟨hle, htakes⟩ := Piece.takes_of_length? hn
        have hlen : ((text.drop i).take n).length = n := List.length_take_of_le hle
        have hone' : p.count .name ≤ 1 := List.count_le_count_cons.trans hone
        rw [Cursor.skip_place n hle, Cursor.place_rest] at h
        obtain ⟨parts, hfirst, hname, hk⟩ := ih hone' h
        refine ⟨(text.drop i).take n :: parts, ⟨.cons (List.take_prefix n _) htakes ?_, ?_⟩, ?_, ?_⟩
        · rw [hlen]
          exact hfirst.1
        · intro others hothers
          cases hothers with
          | @cons _ _ _ part others inside takes rest =>
              obtain ⟨m, hm, hle', -⟩ := Piece.length?_of_takes line inside takes
              obtain rfl : m = n := Option.some.inj (hm.symm.trans hn)
              rw [List.map_cons, List.map_cons, hlen]
              rcases Nat.lt_or_eq_of_le hle' with hlt | rfl
              · exact le_of_lt (List.Lex.rel hlt)
              · exact List.cons_le_cons _ (hfirst.2 others rest)
        · rw [hname, lookup_name hone]
        · rw [hk, List.flatten_cons, List.length_append, hlen, Nat.add_assoc]
      next => simp at h

theorem matchAt?_of_reads {found : String} (hapart : p.Apart) (h : Reads text i p parts) :
    ∃ r, p.matchAt? found (.place line text i) = some r := by
  induction h generalizing found with
  | nil => exact ⟨_, rfl⟩
  | @cons i piece p part parts inside takes rest ih =>
      obtain ⟨n, hn, hle, hmore⟩ := Piece.length?_of_takes line inside takes
      obtain ⟨hnext, hrest⟩ := hapart
      simp only [matchAt?, hn]
      rcases hnext with rfl | hnext
      · exact ⟨_, rfl⟩
      · have hlen : n = part.length := by
          by_contra hne
          obtain ⟨c, hc, hgoes⟩ := hmore (by omega)
          exact hnext c hgoes (rest.opens hc)
        rw [hlen, Cursor.skip_place _ inside.length_le]
        exact ih hrest

def matchOf (p : Pattern) (line : Nat) (text : List Char) (o : Occurrence) : Match :=
  ⟨p.nameIn o.parts, .place line text o.start, .place line text o.stop⟩

/-- From every place the search finds the scan from there, if it has as many steps as there are places
left. -/
theorem matchesFrom_eq (hone : p.count .name = 1) (hapart : p.Apart) (fuel i : Nat)
    (hfuel : text.length < i + fuel) :
    ∃ os, Scan p text i os ∧
      p.matchesFrom fuel (.place line text i) = os.map (p.matchOf line text) := by
  have hname : .name ∈ p := List.count_pos_iff.mp (by omega)
  induction fuel generalizing i with
  | zero => exact ⟨[], .nil_of_length_le hname (Nat.le_of_lt hfuel), rfl⟩
  | succ fuel ih =>
      rw [matchesFrom]
      split
      next name stop hmatch =>
        obtain ⟨parts, hfirst, hfound, rfl⟩ := first_of_matchAt? hone.le hmatch
        have hpos := List.length_pos_iff.mpr (hfirst.1.flatten_ne_nil hname)
        have hlt := hfirst.1.lt_length hname
        obtain ⟨os, hscan, heq⟩ := ih (i + parts.flatten.length) (by omega)
        refine ⟨⟨i, parts⟩ :: os, .found (Nat.le_refl i) (fun j hj hlt => ?_) hfirst hscan, ?_⟩
        · exact absurd hlt (Nat.not_lt.mpr hj)
        · rw [if_pos (by simp only [Cursor.place_rest, List.length_drop]; omega), heq, hfound,
            List.map_cons, matchOf, nameIn]
          cases (p.zip parts).lookup .name <;> rfl
      next hmatch =>
        have hno : ¬ p.Occurs text i := by
          rintro ⟨parts, hreads⟩
          obtain ⟨r, hr⟩ := matchAt?_of_reads hapart hreads
          rw [hr] at hmatch
          cases hmatch
        split
        next c cs hrest =>
          obtain ⟨os, hscan, heq⟩ := ih (i + 1) (by omega)
          exact ⟨os, hscan.skip hno, by rw [Cursor.step_place hrest, heq]⟩
        next hrest => exact ⟨[], .nil_of_length_le hname (List.drop_eq_nil_iff.mp hrest), rfl⟩

theorem matchesFrom_start_eq (hone : p.count .name = 1) (hapart : p.Apart) (line : Nat)
    (text : List Char) :
    ∃ os, Scan p text 0 os ∧
      p.matchesFrom (text.length + 1) { Cursor.start text with line } =
        os.map (p.matchOf line text) := by
  rw [← Cursor.place_zero]
  exact matchesFrom_eq hone hapart (text.length + 1) 0 (by omega)

theorem matches_eq (hone : p.count .name = 1) (hapart : p.Apart) (text : List Char) :
    ∃ os, Scan p text 0 os ∧ p.matches text = os.map (p.matchOf 1 text) :=
  matchesFrom_start_eq hone hapart 1 text

end Pattern

end Scaffold.JavaScript
