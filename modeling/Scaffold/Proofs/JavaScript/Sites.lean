import Mathlib.Data.List.Nodup
import Mathlib.Data.List.Pairwise
import Scaffold.Proofs.JavaScript.Functions

namespace Scaffold.JavaScript

namespace Pattern

variable {p q q' v w : Pattern} {text : List Char} {i : Nat}

theorem Occurs.inv {piece : Piece} (h : Occurs (piece :: p) text i) :
    ∃ part, part <+: text.drop i ∧ piece.Takes text i part ∧ p.Occurs text (i + part.length) := by
  obtain ⟨parts, hreads⟩ := h
  cases hreads with
  | cons inside takes rest => exact ⟨_, inside, takes, _, rest⟩

/-- A piece that is apart from what follows takes as much in every reading as the search does. -/
theorem Apart.length?_eq {piece : Piece} (h : Apart (piece :: p)) (hne : p ≠ []) (line : Nat) {part : List Char}
    (inside : part <+: text.drop i) (takes : piece.Takes text i part)
    (rest : p.Occurs text (i + part.length)) : piece.length? (.place line text i) = some part.length := by
  obtain ⟨parts, hreads⟩ := rest
  obtain ⟨n, hn, hle, hmore⟩ := Piece.length?_of_takes line inside takes
  have hlength : n = part.length := by
    by_contra hlt
    obtain ⟨c, hc, hgoes⟩ := hmore (by omega)
    exact h.1.resolve_left hne c hgoes (hreads.opens hc)
  rw [hn, hlength]

/-- Two patterns with a common beginning read it in one way, and go on at one place. -/
theorem exists_occurs_both (hq : (p ++ q).Apart) (hq' : (p ++ q').Apart) (hne : q ≠ []) (hne' : q' ≠ [])
    (h : (p ++ q).Occurs text i) (h' : (p ++ q').Occurs text i) :
    ∃ j, q.Occurs text j ∧ q'.Occurs text j := by
  induction p generalizing i with
  | nil => exact ⟨i, h, h'⟩
  | cons piece p ih =>
      obtain ⟨part, inside, takes, rest⟩ := h.inv
      obtain ⟨part', inside', takes', rest'⟩ := h'.inv
      have hn := hq.length?_eq (by simp [hne]) 1 inside takes rest
      have hn' := hq'.length?_eq (by simp [hne']) 1 inside' takes' rest'
      have hlength : part'.length = part.length := by simpa [hn] using hn'.symm
      obtain rfl : part' = part :=
        (List.prefix_of_prefix_length_le inside' inside hlength.le).eq_of_length hlength
      exact ih hq.2 hq'.2 rest rest'

def Excludes (p q : Pattern) : Prop := ∀ text i, p.Occurs text i → ¬ q.Occurs text i

theorem Excludes.symm (h : p.Excludes q) : q.Excludes p :=
  fun text i hq hp => h text i hp hq

theorem excludes_parameters (h : q.opens '(' = false) : Excludes (.parameters :: p) q := by
  rintro text i hp ⟨parts, hreads⟩
  obtain ⟨_, ⟨after, hrest⟩, ⟨inside, rfl, -⟩, -⟩ := hp.inv
  have hopens := hreads.opens (c := '(') (by rw [← hrest]; rfl)
  rw [h] at hopens
  cases hopens

theorem excludes_keyword {keyword keyword' : String} (h : ¬ keyword.toList <+: keyword'.toList)
    (h' : ¬ keyword'.toList <+: keyword.toList) (p q : Pattern) :
    Excludes (literal keyword :: p) (literal keyword' :: q) := by
  intro text i hp hq
  obtain ⟨_, inside, rfl, -⟩ := hp.inv
  obtain ⟨_, inside', rfl, -⟩ := hq.inv
  rcases List.prefix_or_prefix_of_prefix inside inside' with hpre | hpre
  · exact h hpre
  · exact h' hpre

theorem Excludes.binding (h : v.Excludes w) {keyword : String} (hv : (binding keyword ++ v).Apart)
    (hw : (binding keyword ++ w).Apart) (hne : v ≠ []) (hne' : w ≠ []) :
    Excludes (binding keyword ++ v) (binding keyword ++ w) := by
  intro text i hp hq
  obtain ⟨j, hj, hj'⟩ := exists_occurs_both hv hw hne hne' hp hq
  exact h text j hj hj'

/-- The word `function` is a name before an arrow as any other, but then an arrow follows. -/
theorem excludes_functionValue_bareArrow : Excludes functionValue bareArrow := by
  intro text i hp hq
  obtain ⟨part, inside, takes, parts, rest⟩ := hp.inv
  have hword : Piece.Takes text i part .word := by
    obtain rfl : part = "function".toList := takes
    have hall : "function".toList.all Text.isWordChar = true := by decide
    exact ⟨by simp, List.all_eq_true.mp hall⟩
  have hlist : Apart [.parameters] := .parameters trivial
  have hsign : Apart [.text ['=', '>']] := .text _ trivial
  obtain ⟨j, hj, hj'⟩ := exists_occurs_both (p := [.word, .blanks]) (hlist.named (by decide) opensSign_parameters)
    (hsign.named (by decide) (opensSign_text (by decide))) (by simp) (by simp) ⟨_, .cons inside hword rest⟩ hq
  exact excludes_parameters (by decide) text j hj hj'

end Pattern

def boundValues : List Pattern := [functionValue, arrow, bareArrow]

theorem excludes_of_mem_boundValues {v w : Pattern} (hv : v ∈ boundValues) (hw : w ∈ boundValues) (hne : v ≠ w) :
    v.Excludes w := by
  have hfunction : arrow.Excludes functionValue := Pattern.excludes_parameters (by decide)
  have hbare : arrow.Excludes bareArrow := Pattern.excludes_parameters (by decide)
  have hpairs : boundValues.Pairwise Pattern.Excludes := by
    simp [boundValues, hfunction.symm, hbare, Pattern.excludes_functionValue_bareArrow]
  have : Std.Symm Pattern.Excludes := ⟨fun _ _ h => h.symm⟩
  exact hpairs.forall hv hw hne

theorem form_of_mem_functionPatterns : ∀ p ∈ functionPatterns,
    p = [literal "function", .someBlanks, .name, .blanks, .parameters] ∨
      ∃ keyword ∈ ["const", "let", "var"], ∃ v ∈ boundValues, p = binding keyword ++ v := by
  decide +kernel

theorem apart_of_mem_boundValues (keyword : String) {v : Pattern} (hv : v ∈ boundValues) :
    v ≠ [] ∧ (binding keyword ++ v).Apart := by
  simp only [boundValues, List.mem_cons, List.not_mem_nil, or_false] at hv
  rcases hv with rfl | rfl | rfl
  · exact ⟨by decide, Pattern.apart_functionValue keyword⟩
  · exact ⟨by decide, Pattern.apart_arrow keyword⟩
  · exact ⟨by decide, Pattern.apart_bareArrow keyword⟩

theorem excludes_of_mem_functionPatterns {p q : Pattern} (hp : p ∈ functionPatterns) (hq : q ∈ functionPatterns)
    (hne : p ≠ q) : p.Excludes q := by
  have hkeywords : ∀ k ∈ ["const", "let", "var"],
      ¬ "function".toList <+: k.toList ∧ ¬ k.toList <+: "function".toList ∧
        ∀ k' ∈ ["const", "let", "var"], k ≠ k' → ¬ k.toList <+: k'.toList := by decide
  rcases form_of_mem_functionPatterns p hp with rfl | ⟨k, hk, v, hv, rfl⟩
  · rcases form_of_mem_functionPatterns q hq with rfl | ⟨k', hk', w, hw, rfl⟩
    · exact absurd rfl hne
    · exact Pattern.excludes_keyword (hkeywords k' hk').1 (hkeywords k' hk').2.1 _ _
  · rcases form_of_mem_functionPatterns q hq with rfl | ⟨k', hk', w, hw, rfl⟩
    · exact Pattern.excludes_keyword (hkeywords k hk).2.1 (hkeywords k hk).1 _ _
    · by_cases heq : k = k'
      · subst heq
        have hvw : v ≠ w := fun h => hne (congrArg (binding k ++ ·) h)
        obtain ⟨hv0, hva⟩ := apart_of_mem_boundValues k hv
        obtain ⟨hw0, hwa⟩ := apart_of_mem_boundValues k hw
        exact (excludes_of_mem_boundValues hv hw hvw).binding hva hwa hv0 hw0
      · exact Pattern.excludes_keyword ((hkeywords k hk).2.2 k' hk' heq)
          ((hkeywords k' hk').2.2 k hk (Ne.symm heq)) _ _

def isName (s : String) : Bool :=
  match s.toList with
  | c :: cs => isNameStart c && cs.all isNamePart
  | [] => false

theorem isNamePart_of_isNameStart {c : Char} (h : isNameStart c) : isNamePart c := by
  simp only [isNameStart, isNamePart, Char.isAlphanum, Bool.or_eq_true] at h ⊢
  tauto

theorem isName_char {s : String} (h : isName s) : s.toList ≠ [] ∧ ∀ c ∈ s.toList, isNamePart c := by
  rw [isName] at h
  cases hs : s.toList with
  | nil => simp [hs] at h
  | cons c cs =>
      simp only [hs, Bool.and_eq_true, List.all_eq_true] at h
      refine ⟨by simp, ?_⟩
      intro d hd
      rcases List.mem_cons.mp hd with rfl | hd
      · exact isNamePart_of_isNameStart h.1
      · exact h.2 d hd

theorem Pattern.Reads.isName_nameIn {p : Pattern} {text : List Char} {i : Nat} {parts : List (List Char)}
    (h : Reads text i p parts) (hname : .name ∈ p) : isName (p.nameIn parts) := by
  induction h with
  | nil => simp at hname
  | @cons i piece p part parts inside takes rest ih =>
      by_cases hp : piece = .name
      · subst hp
        obtain ⟨c, cs, rfl, hc, hcs⟩ := takes
        simpa [nameIn, isName, hc] using hcs
      · have hrest := ih ((List.mem_cons.mp hname).resolve_left (Ne.symm hp))
        rwa [nameIn, List.zip_cons_cons, List.lookup_cons, beq_eq_false_iff_ne.mpr (Ne.symm hp)]

def Declares (text : List Char) (i : Nat) (name : String) : Prop :=
  ∃ p ∈ functionPatterns, ∃ os, Scan p text 0 os ∧ ∃ o ∈ os, o.start = i ∧ p.nameIn o.parts = name

def Pattern.sites (text : List Char) (p : Pattern) : List (Nat × String) :=
  (p.matches text).map fun m => (text.length - m.start.rest.length, m.name)

def sites (text : List Char) : List (Nat × String) := functionPatterns.flatMap (Pattern.sites text)

variable {text : List Char}

theorem map_snd_sites :
    ((sites text).filter fun s => !builtins.contains s.2).map Prod.snd = (functions text).map (·.name) := by
  simp only [sites, Pattern.sites, functions, List.filter_flatMap, List.map_flatMap, List.filter_map, List.map_map]
  rfl

theorem name_mem_of_mem_functionPatterns {p : Pattern} (hp : p ∈ functionPatterns) : .name ∈ p := by
  rw [← List.count_pos_iff, count_name_of_mem_functionPatterns p hp]
  exact Nat.one_pos

theorem exists_scan {p : Pattern} (hp : p ∈ functionPatterns) (text : List Char) :
    ∃ os, Scan p text 0 os ∧ p.sites text = os.map fun o => (o.start, p.nameIn o.parts) := by
  obtain ⟨os, hscan, hmatches⟩ :=
    p.matches_eq (count_name_of_mem_functionPatterns p hp) (apart_of_mem_functionPatterns hp) text
  refine ⟨os, hscan, ?_⟩
  rw [Pattern.sites, hmatches, List.map_map]
  apply List.map_congr_left
  intro o ho
  have hlt := hscan.start_lt_length (name_mem_of_mem_functionPatterns hp) o ho
  have hstart : text.length - (text.length - o.start) = o.start := by omega
  simp [Pattern.matchOf, hstart]

theorem mem_sites_iff {i : Nat} {name : String} : (i, name) ∈ sites text ↔ Declares text i name := by
  rw [sites, List.mem_flatMap]
  constructor
  · rintro ⟨p, hp, hmem⟩
    obtain ⟨os, hscan, hsites⟩ := exists_scan hp text
    rw [hsites] at hmem
    obtain ⟨o, ho, heq⟩ := List.mem_map.mp hmem
    obtain ⟨rfl, rfl⟩ := Prod.mk.inj heq
    exact ⟨p, hp, os, hscan, o, ho, rfl, rfl⟩
  · rintro ⟨p, hp, os, hscan, o, ho, rfl, rfl⟩
    obtain ⟨os', hscan', hsites⟩ := exists_scan hp text
    obtain rfl := hscan'.unique hscan
    refine ⟨p, hp, ?_⟩
    rw [hsites]
    exact List.mem_map_of_mem ho

theorem occurs_of_mem_sites {p : Pattern} (hp : p ∈ functionPatterns) {i : Nat}
    (hi : i ∈ (p.sites text).map Prod.fst) : p.Occurs text i := by
  obtain ⟨os, hscan, hsites⟩ := exists_scan hp text
  rw [hsites, List.map_map] at hi
  obtain ⟨o, ho, rfl⟩ := List.mem_map.mp hi
  exact ⟨o.parts, (hscan.of_mem o ho).2.1⟩

theorem nodup_starts {p : Pattern} (hname : .name ∈ p) {os : List Occurrence} (h : Scan p text 0 os) :
    (os.map (·.start)).Nodup := by
  rw [List.Nodup, List.pairwise_map]
  refine h.pairwise.imp_of_mem ?_
  intro o o' ho ho' hle heq
  have hpos := List.length_pos_iff.mpr ((h.of_mem o ho).2.1.flatten_ne_nil hname)
  rw [Occurrence.stop] at hle
  omega

theorem nodup_map_fst_sites : ((sites text).map Prod.fst).Nodup := by
  have hpatterns : functionPatterns.Nodup := by decide +kernel
  rw [sites, List.map_flatMap, List.nodup_flatMap]
  refine ⟨?_, hpatterns.imp_of_mem ?_⟩
  · intro p hp
    obtain ⟨os, hscan, hsites⟩ := exists_scan hp text
    rw [hsites, List.map_map]
    exact nodup_starts (name_mem_of_mem_functionPatterns hp) hscan
  · intro p q hp hq hne i hi hi'
    exact excludes_of_mem_functionPatterns hp hq hne text i (occurs_of_mem_sites hp hi) (occurs_of_mem_sites hq hi')

theorem isName_of_declares {i : Nat} {name : String} (h : Declares text i name) : isName name := by
  obtain ⟨p, hp, os, hscan, o, ho, -, rfl⟩ := h
  exact (hscan.of_mem o ho).2.1.isName_nameIn (name_mem_of_mem_functionPatterns hp)

theorem isName_of_mem_functions {f : Signature} (hf : f ∈ functions text) : isName f.name := by
  have hmem := List.mem_map_of_mem (f := (·.name)) hf
  rw [← map_snd_sites] at hmem
  obtain ⟨⟨i, name⟩, hsite, hname⟩ := List.mem_map.mp hmem
  obtain rfl : name = f.name := hname
  exact isName_of_declares (mem_sites_iff.mp (List.mem_of_mem_filter hsite))

/-- The names of the functions of a text differ if and only if no name that is listed is declared at two
places. -/
theorem nodup_names_iff : ((functions text).map (·.name)).Nodup ↔
    ∀ name ∉ builtins, ∀ i j, Declares text i name → Declares text j name → i = j := by
  have hnodup : (sites text).Nodup := .of_map _ nodup_map_fst_sites
  have hmem (s : Nat × String) : s ∈ (sites text).filter (fun s => !builtins.contains s.2) ↔
      Declares text s.1 s.2 ∧ s.2 ∉ builtins := by
    rw [List.mem_filter, ← mem_sites_iff]
    simp
  rw [← map_snd_sites, List.nodup_map_iff_inj_on (hnodup.filter _)]
  constructor
  · intro h name hname i j hi hj
    exact congrArg Prod.fst (h (i, name) ((hmem _).mpr ⟨hi, hname⟩) (j, name) ((hmem _).mpr ⟨hj, hname⟩) rfl)
  · rintro h ⟨i, name⟩ hi ⟨j, name'⟩ hj heq
    obtain rfl : name = name' := heq
    obtain ⟨hi, hname⟩ := (hmem _).mp hi
    rw [h name hname i j hi ((hmem _).mp hj).1]

end Scaffold.JavaScript
