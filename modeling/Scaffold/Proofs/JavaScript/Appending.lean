import Scaffold.Proofs.JavaScript.Functions
import Scaffold.Proofs.JavaScript.Sites

namespace Scaffold.JavaScript

variable {s t : List Char} {i j : Nat}

theorem prefix_drop_iff {part : List Char} (hi : i ≤ s.length) :
    part <+: s.drop i ↔ part <+: (s ++ t).drop i ∧ i + part.length ≤ s.length := by
  rw [List.drop_append_of_le_length hi]
  constructor
  · intro h
    have hle := h.length_le
    rw [List.length_drop] at hle
    exact ⟨h.trans (List.prefix_append _ _), by omega⟩
  · rintro ⟨h, hle⟩
    exact List.prefix_of_prefix_length_le h (List.prefix_append _ _) (by rw [List.length_drop]; omega)

theorem Piece.takes_append_iff {piece : Piece} {part : List Char} (h : piece ≠ .boundary ∨ i < s.length) :
    piece.Takes (s ++ t) i part ↔ piece.Takes s i part := by
  cases piece with
  | boundary =>
      have hi : i < s.length := h.resolve_left (by simp)
      have hhead : ((s ++ t).drop i).head? = (s.drop i).head? := by
        rw [List.head?_drop, List.head?_drop, List.getElem?_append_left hi]
      rw [Takes, Takes, List.take_append_of_le_length hi.le, hhead]
  | text _ | blanks | someBlanks | name | word | parameters => rfl

namespace Pattern

variable {p q : Pattern} {text : List Char} {parts : List (List Char)}

/-- The readings of a text are those of a longer text that end in it. A word boundary may stand at the
beginning of the pattern only, where the text goes on. -/
theorem reads_append_iff (hp : .boundary ∉ p.tail) (hhead : p.head? ≠ some .boundary ∨ i < s.length)
    (hi : i ≤ s.length) :
    Reads s i p parts ↔ Reads (s ++ t) i p parts ∧ i + parts.flatten.length ≤ s.length := by
  induction p generalizing i parts with
  | nil =>
      constructor
      · intro h
        cases h
        exact ⟨.nil, hi⟩
      · rintro ⟨h, -⟩
        cases h
        exact .nil
  | cons piece p ih =>
      have hpiece : piece ≠ .boundary ∨ i < s.length := by simpa using hhead
      have htail : .boundary ∉ p.tail := fun h => hp (List.mem_of_mem_tail h)
      have hnext : p.head? ≠ some .boundary := fun h => hp (List.mem_of_mem_head? h)
      constructor
      · intro h
        cases h with
        | @cons _ _ _ part parts inside takes rest =>
            obtain ⟨inside, hle⟩ := (prefix_drop_iff (t := t) hi).mp inside
            obtain ⟨rest, hstop⟩ := (ih htail (.inl hnext) hle).mp rest
            refine ⟨.cons inside ((Piece.takes_append_iff hpiece).mpr takes) rest, ?_⟩
            rwa [List.flatten_cons, List.length_append, ← Nat.add_assoc]
      · rintro ⟨h, hstop⟩
        cases h with
        | @cons _ _ _ part parts inside takes rest =>
            rw [List.flatten_cons, List.length_append, ← Nat.add_assoc] at hstop
            have hle : i + part.length ≤ s.length := by omega
            exact .cons ((prefix_drop_iff hi).mpr ⟨inside, hle⟩) ((Piece.takes_append_iff hpiece).mp takes)
              ((ih htail (.inl hnext) hle).mpr ⟨rest, hstop⟩)

theorem Reads.split (h : Reads text i (p ++ q) parts) :
    ∃ l r, parts = l ++ r ∧ Reads text i p l ∧ Reads text (i + l.flatten.length) q r := by
  induction p generalizing i parts with
  | nil => exact ⟨[], parts, rfl, .nil, h⟩
  | cons piece p ih =>
      cases h with
      | @cons _ _ _ part parts inside takes rest =>
          obtain ⟨l, r, rfl, hl, hr⟩ := ih rest
          refine ⟨part :: l, r, rfl, .cons inside takes hl, ?_⟩
          rwa [List.flatten_cons, List.length_append, ← Nat.add_assoc]

theorem Reads.append {l r : List (List Char)} (hl : Reads text i p l)
    (hr : Reads text (i + l.flatten.length) q r) : Reads text i (p ++ q) (l ++ r) := by
  induction hl with
  | nil => exact hr
  | cons inside takes rest ih =>
      refine .cons inside takes (ih ?_)
      rwa [Nat.add_assoc, ← List.length_append, ← List.flatten_cons]

/-- A reading counts if its last piece could not go on after it. -/
theorem Reads.first (hapart : p.Apart) (h : Reads text i p parts)
    (hstop : ∀ c piece, (text.drop (i + parts.flatten.length)).head? = some c →
      p.getLast? = some piece → ¬ piece.goesOn c) : p.First text i parts := by
  refine ⟨h, ?_⟩
  induction h with
  | nil =>
      intro others h'
      cases h'
      exact le_rfl
  | @cons i piece p part parts inside takes rest ih =>
      intro others h'
      cases h' with
      | @cons _ _ _ part' others inside' takes' rest' =>
          by_cases hp : p = []
          · subst hp
            cases rest
            cases rest'
            obtain ⟨n, hn, hle, hmore⟩ := Piece.length?_of_takes 1 inside takes
            obtain ⟨n', hn', hle', -⟩ := Piece.length?_of_takes 1 inside' takes'
            obtain rfl : n' = n := Option.some.inj (hn'.symm.trans hn)
            have hlength : n' = part.length := by
              by_contra hne
              obtain ⟨c, hc, hgoes⟩ := hmore (by omega)
              exact hstop c piece (by simpa using hc) rfl hgoes
            rcases Nat.lt_or_eq_of_le (hlength ▸ hle') with hlt | heq
            · exact le_of_lt (List.Lex.rel hlt)
            · simp [heq]
          · have hn := hapart.length?_eq hp 1 inside takes ⟨_, rest⟩
            have hn' := hapart.length?_eq hp 1 inside' takes' ⟨_, rest'⟩
            have hlength : part'.length = part.length := by simpa [hn] using hn'.symm
            obtain rfl : part' = part :=
              (List.prefix_of_prefix_length_le inside' inside hlength.le).eq_of_length hlength
            refine List.cons_le_cons _ (ih hapart.2 (fun c last hc hlast => ?_) others rest')
            refine hstop c last ?_ ?_
            · rwa [List.flatten_cons, List.length_append, ← Nat.add_assoc]
            · rw [List.getLast?_cons, hlast]
              rfl

theorem First.not_isNamePart (h : First (p ++ [.name]) text i parts) {c : Char}
    (hc : (text.drop (i + parts.flatten.length)).head? = some c) : ¬ isNamePart c := by
  intro hpart
  obtain ⟨l, r, rfl, hl, hr⟩ := h.1.split
  cases hr with
  | @cons _ _ _ part parts inside takes rest =>
      cases rest
      obtain ⟨d, ds, rfl, hd, hds⟩ := takes
      obtain ⟨after, hrest⟩ := inside
      have hafter : text.drop (i + (l ++ [d :: ds]).flatten.length) = after := by
        rw [List.flatten_append, List.length_append, ← Nat.add_assoc]
        simpa using drop_add_length hrest
      rw [hafter] at hc
      obtain ⟨after, rfl⟩ := List.head?_eq_some_iff.mp hc
      have hlonger : Reads text i (p ++ [.name]) (l ++ [d :: ds ++ [c]]) := by
        refine hl.append (.cons ⟨after, by rw [← hrest]; simp⟩ ⟨d, ds ++ [c], rfl, hd, ?_⟩ .nil)
        intro x hx
        rcases List.mem_append.mp hx with hx | hx
        · exact hds x hx
        · rwa [List.mem_singleton.mp hx]
      have hle := h.2 _ hlonger
      rw [List.map_append, List.map_append] at hle
      exact absurd hle (not_le.mpr (List.append_left_lt (List.Lex.rel (by simp))))

/-- A pattern is sealed by a property of texts that longer texts keep: each reading has it, and at each place
where the pattern is read there is a reading that has it only with its last character. -/
structure Sealed (p : Pattern) (mark : List Char → Prop) : Prop where
  mono : ∀ u v, u.Sublist v → mark u → mark v
  reads : ∀ {text i parts}, Reads text i p parts → mark parts.flatten
  short : ∀ {text i}, p.Occurs text i → ∃ parts, Reads text i p parts ∧ ¬ mark parts.flatten.dropLast

/-- A reading that ends only in the second text holds no other one that ends in the first. -/
theorem Sealed.occurs_of_append {mark : List Char → Prop} (h : Sealed p mark) (hname : .name ∈ p)
    (hp : .boundary ∉ p.tail) (ho : p.Occurs (s ++ t) i) (hij : i ≤ j) (hj : p.Occurs s j) :
    p.Occurs s i := by
  obtain ⟨parts, hreads, hshort⟩ := h.short ho
  obtain ⟨parts', hreads'⟩ := hj
  have hlt : i < s.length := Nat.lt_of_le_of_lt hij (hreads'.lt_length hname)
  by_cases hstop : i + parts.flatten.length ≤ s.length
  · exact ⟨parts, (reads_append_iff hp (.inr hlt) hlt.le).mpr ⟨hreads, hstop⟩⟩
  · have hleft : s.drop i <+: (s ++ t).drop i := by
      rw [List.drop_append_of_le_length hlt.le]
      exact List.prefix_append _ _
    have hpre : s.drop i <+: parts.flatten.dropLast := by
      refine List.prefix_of_prefix_length_le hleft ((List.dropLast_prefix _).trans hreads.flatten_isPrefix) ?_
      rw [List.length_drop, List.length_dropLast]
      omega
    have hsub : parts'.flatten.Sublist (s.drop i) := by
      have hdrop : s.drop j = (s.drop i).drop (j - i) := by
        rw [List.drop_drop, Nat.add_sub_cancel' hij]
      refine hreads'.flatten_isPrefix.sublist.trans ?_
      rw [hdrop]
      exact List.drop_sublist _ _
    exact absurd (h.mono _ _ (hsub.trans hpre.sublist) (h.reads hreads')) hshort

theorem exists_scan_from (hone : p.count .name = 1) (hapart : p.Apart) (text : List Char) (i : Nat) :
    ∃ os, Scan p text i os := by
  obtain ⟨os, hscan, -⟩ := @matchesFrom_eq p 1 text hone hapart (text.length + 1) i (by omega)
  exact ⟨os, hscan⟩

theorem scan_append {os rest : List Occurrence} (hone : p.count .name = 1) (hapart : p.Apart)
    (h : Scan p s i (os ++ rest)) (hkept : ∀ o ∈ os, p.First (s ++ t) o.start o.parts)
    (hnone : ∀ o ∈ os, ∀ j < o.start, p.Occurs (s ++ t) j → p.Occurs s j) :
    ∃ rest', Scan p (s ++ t) i (os ++ rest') := by
  induction os generalizing i with
  | nil => exact exists_scan_from hone hapart (s ++ t) i
  | cons o os ih =>
      cases h with
      | found after none first scan =>
          obtain ⟨rest', hscan⟩ := ih scan (fun o' ho' => hkept o' (List.mem_cons_of_mem o ho'))
            (fun o' ho' => hnone o' (List.mem_cons_of_mem o ho'))
          exact ⟨rest', .found after
            (fun j hj hlt ho => none j hj hlt (hnone o (List.mem_cons_self ..) j hlt ho))
            (hkept o (List.mem_cons_self ..)) hscan⟩

/-- A scan stays when text is put after it, as far as its occurrences could not have gone on at their ends. -/
theorem Sealed.scan_append {mark : List Char → Prop} (h : Sealed p mark) (hone : p.count .name = 1)
    (hapart : p.Apart) (hp : .boundary ∉ p.tail) {os rest : List Occurrence} (hscan : Scan p s i (os ++ rest))
    (hstop : ∀ o ∈ os, ∀ c piece, ((s ++ t).drop o.stop).head? = some c → p.getLast? = some piece →
      ¬ piece.goesOn c) :
    ∃ rest', Scan p (s ++ t) i (os ++ rest') := by
  have hname : .name ∈ p := List.count_pos_iff.mp (by omega)
  have hfirst (o : Occurrence) (ho : o ∈ os) : p.First s o.start o.parts :=
    (hscan.of_mem o (List.mem_append_left rest ho)).2
  refine Pattern.scan_append hone hapart hscan (fun o ho => ?_) (fun o ho j hlt hoccurs => ?_)
  · have hlt := (hfirst o ho).1.lt_length hname
    exact ((reads_append_iff hp (.inr hlt) hlt.le).mp (hfirst o ho).1).1.first hapart (hstop o ho)
  · exact h.occurs_of_append hname hp hoccurs hlt.le ⟨_, (hfirst o ho).1⟩

end Pattern

def Piece.avoids (x : Char) : Piece → Bool
  | boundary => true
  | text cs => !cs.contains x
  | blanks | someBlanks => !Text.isBlank x
  | name => !isNamePart x
  | word => !Text.isWordChar x
  | parameters => false

theorem Piece.Takes.not_mem {piece : Piece} {text part : List Char} {x : Char} (h : piece.Takes text i part)
    (hx : piece.avoids x) : x ∉ part := by
  have hrun {q : Char → Bool} {cs : List Char} (hcs : ∀ c ∈ cs, q c) (hq : q x = false) : x ∉ cs := by
    intro hmem
    have hx := hcs x hmem
    rw [hq] at hx
    cases hx
  cases piece with
  | boundary => simp [h.1]
  | text cs =>
      obtain rfl : part = cs := h
      simpa [avoids] using hx
  | blanks => exact hrun h (by simpa [avoids] using hx)
  | someBlanks => exact hrun h.2 (by simpa [avoids] using hx)
  | name =>
      obtain ⟨c, cs, rfl, hc, hcs⟩ := h
      refine hrun (q := isNamePart) (fun d hd => ?_) (by simpa [avoids] using hx)
      rcases List.mem_cons.mp hd with rfl | hd
      · exact isNamePart_of_isNameStart hc
      · exact hcs d hd
  | word => exact hrun h.2 (by simpa [avoids] using hx)
  | parameters => cases hx

namespace Pattern

variable {p : Pattern} {text : List Char} {parts : List (List Char)}

theorem Reads.not_mem_flatten {x : Char} (h : Reads text i p parts) (hx : p.all (·.avoids x)) :
    x ∉ parts.flatten := by
  induction h with
  | nil => simp
  | cons inside takes rest ih =>
      rw [List.all_cons, Bool.and_eq_true] at hx
      rw [List.flatten_cons, List.mem_append, not_or]
      exact ⟨takes.not_mem hx.1, ih hx.2⟩

/-- A character that each reading ends with, and that it holds nowhere else, seals a pattern. -/
theorem sealed_of_last {x : Char}
    (h : ∀ {text i parts}, Reads text i p parts → ∃ u, parts.flatten = u ++ [x] ∧ x ∉ u) :
    Sealed p (x ∈ ·) := by
  refine ⟨fun u v hsub hu => hsub.subset hu, fun hreads => ?_, fun ⟨parts, hreads⟩ => ⟨parts, hreads, ?_⟩⟩
  · obtain ⟨u, hu, -⟩ := h hreads
    simp [hu]
  · obtain ⟨u, hu, hnot⟩ := h hreads
    rwa [hu, List.dropLast_concat]

theorem sealed_parameters (hp : p.all (·.avoids ')')) : Sealed (p ++ [.parameters]) (')' ∈ ·) := by
  refine sealed_of_last fun h => ?_
  obtain ⟨l, r, rfl, hl, hr⟩ := h.split
  cases hr with
  | cons inside takes rest =>
      cases rest
      obtain ⟨between, rfl, hbetween⟩ := takes
      refine ⟨l.flatten ++ '(' :: between, by simp, ?_⟩
      simp [hl.not_mem_flatten hp, hbetween]

theorem sealed_bareArrow (hp : p.all (·.avoids '>')) : Sealed (p ++ [literal "=>"]) ('>' ∈ ·) := by
  refine sealed_of_last fun h => ?_
  obtain ⟨l, r, rfl, hl, hr⟩ := h.split
  cases hr with
  | @cons _ _ _ part parts inside takes rest =>
      cases rest
      obtain rfl : part = ['=', '>'] := takes
      refine ⟨l.flatten ++ ['='], by simp, ?_⟩
      simp [hl.not_mem_flatten hp]

/-- An arrow after parameters is sealed by its head after the parenthesis that closes them. The parameters
themselves may hold arrows. -/
theorem sealed_arrow (hp : p.all (·.avoids ')')) : Sealed (p ++ arrow) ([')', '>'].Sublist ·) := by
  have hform {text : List Char} {i : Nat} {parts : List (List Char)} (h : Reads text i (p ++ arrow) parts) :
      ∃ u v, parts.flatten = u ++ ')' :: v ++ ['>'] ∧ ')' ∉ u ∧ '>' ∉ v := by
    obtain ⟨l, r, rfl, hl, hr⟩ := h.split
    cases hr with
    | cons inside takes rest =>
        cases rest with
        | @cons _ _ _ blanks parts inside' takes' rest =>
            cases rest with
            | @cons _ _ _ part parts inside'' takes'' rest =>
                cases rest
                obtain ⟨between, rfl, hbetween⟩ := takes
                obtain rfl : part = ['=', '>'] := takes''
                refine ⟨l.flatten ++ '(' :: between, blanks ++ ['='], by simp, ?_, ?_⟩
                · simp [hl.not_mem_flatten hp, hbetween]
                · simp [takes'.not_mem (x := '>') rfl]
  refine ⟨fun u v hsub hu => hu.trans hsub, fun h => ?_, fun ⟨parts, h⟩ => ⟨parts, h, ?_⟩⟩
  · obtain ⟨u, v, hu, -, -⟩ := hform h
    rw [hu, List.append_assoc, List.cons_append]
    refine List.Sublist.trans ?_ (List.sublist_append_right u _)
    exact List.cons_sublist_cons.mpr (List.sublist_append_right v ['>'])
  · obtain ⟨u, v, hu, hnot, hnot'⟩ := hform h
    rw [hu, List.dropLast_concat, List.sublist_append_iff]
    rintro ⟨l, r, hcut, hl, hr⟩
    rcases List.append_eq_cons_iff.mp hcut.symm with ⟨rfl, rfl⟩ | ⟨l', rfl, -⟩
    · exact hnot' (List.singleton_sublist.mp (List.cons_sublist_cons.mp hr))
    · exact hnot (hl.subset (List.mem_cons_self ..))

end Pattern

theorem exists_sealed {p : Pattern} (hp : p ∈ functionPatterns) : ∃ mark, p.Sealed mark := by
  simp only [functionPatterns, List.mem_cons, List.not_mem_nil, or_false] at hp
  rcases hp with rfl | rfl | rfl | rfl | rfl | rfl | rfl | rfl
  · exact ⟨_, Pattern.sealed_parameters (p := [literal "function", .someBlanks, .name, .blanks]) (by decide)⟩
  · exact ⟨_, Pattern.sealed_parameters (p := binding "const" ++ [literal "function", .blanks]) (by decide)⟩
  · exact ⟨_, Pattern.sealed_arrow (p := binding "const") (by decide)⟩
  · exact ⟨_, Pattern.sealed_bareArrow (p := binding "const" ++ [.word, .blanks]) (by decide)⟩
  · exact ⟨_, Pattern.sealed_parameters (p := binding "let" ++ [literal "function", .blanks]) (by decide)⟩
  · exact ⟨_, Pattern.sealed_arrow (p := binding "let") (by decide)⟩
  · exact ⟨_, Pattern.sealed_parameters (p := binding "var" ++ [literal "function", .blanks]) (by decide)⟩
  · exact ⟨_, Pattern.sealed_arrow (p := binding "var") (by decide)⟩

def Pattern.listed (text : List Char) (p : Pattern) : List Signature :=
  ((p.matches text).filter fun m => !builtins.contains m.name).map signatureOf

theorem not_boundary_of_mem_functionPatterns : ∀ p ∈ functionPatterns, .boundary ∉ p.tail := by
  decide +kernel

theorem not_goesOn_of_mem_functionPatterns {p : Pattern} (hp : p ∈ functionPatterns) (c : Char) {piece : Piece}
    (hlast : p.getLast? = some piece) : ¬ piece.goesOn c := by
  have hends : ∀ p ∈ functionPatterns, p.getLast? = some .parameters ∨ p.getLast? = some (literal "=>") := by
    decide +kernel
  rcases hends p hp with h | h <;> rw [h] at hlast <;> obtain rfl := Option.some.inj hlast <;>
    simp [literal, Piece.goesOn]

/-- What a pattern lists of a text comes first in what it lists of a longer text. -/
theorem listed_append (s t : List Char) :
    functions s = functionPatterns.flatMap (Pattern.listed s) ∧
      ∀ p ∈ functionPatterns, p.listed s <+: p.listed (s ++ t) := by
  refine ⟨rfl, fun p hp => ?_⟩
  have hone := count_name_of_mem_functionPatterns p hp
  have hapart := apart_of_mem_functionPatterns hp
  obtain ⟨mark, hsealed⟩ := exists_sealed hp
  obtain ⟨os, hscan, hfound⟩ := p.matches_eq hone hapart s
  obtain ⟨os', hscan', hfound'⟩ := p.matches_eq hone hapart (s ++ t)
  have hall : Scan p s 0 (os ++ []) := by rwa [List.append_nil]
  obtain ⟨rest, hrest⟩ : ∃ rest, Scan p (s ++ t) 0 (os ++ rest) :=
    hsealed.scan_append hone hapart (not_boundary_of_mem_functionPatterns p hp) hall
      fun o _ c piece _ => not_goesOn_of_mem_functionPatterns hp c
  obtain rfl := hrest.unique hscan'
  have hlines (o : Occurrence) (ho : o ∈ os) : (s ++ t).take o.start = s.take o.start :=
    List.take_append_of_le_length (hscan.start_lt_length (name_mem_of_mem_functionPatterns hp) o ho).le
  rw [Pattern.listed, Pattern.listed, hfound, hfound',
    signatures_eq p 1 s os fun name => !builtins.contains name,
    signatures_eq p 1 (s ++ t) (os ++ rest) fun name => !builtins.contains name, List.filter_append,
    List.map_append]
  refine ⟨_, congrArg (· ++ _) (List.map_congr_left fun o ho => ?_)⟩
  rw [hlines o (List.mem_of_mem_filter ho)]

def openArrow : List Char := "const f = (a) => a; const g = (b".toList

/-- The text that follows closes the parameters of a second function. -/
theorem listed_append_openArrow :
    binding "const" ++ arrow ∈ functionPatterns ∧
      Pattern.listed openArrow (binding "const" ++ arrow) <+:
        Pattern.listed (openArrow ++ ") => b".toList) (binding "const" ++ arrow) := by
  have hmem : binding "const" ++ arrow ∈ functionPatterns := by decide +kernel
  exact ⟨hmem, (listed_append openArrow ") => b".toList).2 _ hmem⟩

end Scaffold.JavaScript
