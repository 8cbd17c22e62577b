import Scaffold.JavaScript.Outline
import Scaffold.Proofs.JavaScript.Search

namespace Scaffold.JavaScript

def blankPoints : List Nat :=
  [0x9, 0xA, 0xB, 0xC, 0xD, 0x20, 0x85, 0xA0, 0x1680, 0x2000, 0x2001, 0x2002, 0x2003, 0x2004, 0x2005,
    0x2006, 0x2007, 0x2008, 0x2009, 0x200A, 0x2028, 0x2029, 0x202F, 0x205F, 0x3000]

theorem toNat_mem_blankPoints {c : Char} (h : Text.isBlank c) : c.toNat ∈ blankPoints := by
  simp only [Text.isBlank, Bool.or_eq_true, Bool.and_eq_true, decide_eq_true_eq, beq_iff_eq] at h
  simp only [blankPoints, List.mem_cons]
  omega

def signs : List Char := ['=', '(', '\x7b']

theorem sign_apart {c : Char} (h : c ∈ signs) :
    Text.isWordChar c = false ∧ isNamePart c = false := by
  simp only [signs, List.mem_cons, List.not_mem_nil, or_false] at h
  rcases h with rfl | rfl | rfl
  · decide
  · decide
  · decide

theorem blank_apart {c : Char} (h : Text.isBlank c) :
    Text.isWordChar c = false ∧ isNamePart c = false ∧ isNameStart c = false ∧ c ∉ signs := by
  have hall : ∀ n ∈ blankPoints, Text.isWordChar (.ofNat n) = false ∧
      isNamePart (.ofNat n) = false ∧ isNameStart (.ofNat n) = false ∧ Char.ofNat n ∉ signs := by
    decide +kernel
  have hc := hall c.toNat (toNat_mem_blankPoints h)
  rwa [Char.ofNat_toNat] at hc

namespace Pattern

variable {p : Pattern}

def OpensSign (p : Pattern) : Prop := ∀ c, p.opens c → c ∈ signs

theorem opensSign_parameters : OpensSign (.parameters :: p) := by
  intro c hc
  obtain rfl : c = '(' := eq_of_beq hc
  decide

theorem opensSign_text {d : Char} {ds : List Char} (hd : d ∈ signs) :
    OpensSign (.text (d :: ds) :: p) := by
  intro c hc
  obtain rfl : c = d := eq_of_beq hc
  exact hd

theorem Apart.text (cs : List Char) (hp : p.Apart) : Apart (.text cs :: p) := by
  refine ⟨.inr fun c hc => ?_, hp⟩
  cases hc

theorem Apart.parameters (hp : p.Apart) : Apart (.parameters :: p) := by
  refine ⟨.inr fun c hc => ?_, hp⟩
  cases hc

theorem Apart.blanks (hp : p.Apart) (hsign : p.OpensSign) : Apart (.blanks :: p) :=
  ⟨.inr fun c hc hopens => (blank_apart hc).2.2.2 (hsign c hopens), hp⟩

theorem Apart.someBlanks (hp : Apart (.name :: p)) : Apart (.someBlanks :: .name :: p) := by
  refine ⟨.inr fun c hc hopens => ?_, hp⟩
  simp [opens, (blank_apart hc).2.2.1] at hopens

/-- A name or a word cannot go on with a blank, nor with the sign after it. -/
theorem Apart.named {piece : Piece} (hpiece : piece ∈ [.name, .word]) (hp : p.Apart) (hsign : p.OpensSign) :
    Apart (piece :: .blanks :: p) := by
  have hgoes (c : Char) (hc : Text.isWordChar c = false ∧ isNamePart c = false) : ¬ piece.goesOn c := by
    simp only [List.mem_cons, List.not_mem_nil, or_false] at hpiece
    rcases hpiece with rfl | rfl
    · exact Bool.not_eq_true _ ▸ hc.2
    · exact Bool.not_eq_true _ ▸ hc.1
  refine ⟨.inr fun c hc hopens => ?_, hp.blanks hsign⟩
  rcases Bool.or_eq_true_iff.mp hopens with hblank | hopens
  · exact hgoes c ⟨(blank_apart hblank).1, (blank_apart hblank).2.1⟩ hc
  · exact hgoes c (sign_apart (hsign c hopens)) hc

theorem apart_binding (keyword : String) (hp : p.Apart)
    (hblank : ∀ c, Text.isBlank c → ¬ p.opens c) : Apart (binding keyword ++ p) := by
  have hvalue : Apart (.text ['='] :: .blanks :: p) := .text _ ⟨.inr hblank, hp⟩
  exact (hvalue.named (by decide) (opensSign_text (by decide))).someBlanks.text keyword.toList

theorem apart_arrow (keyword : String) : Apart (binding keyword ++ arrow) := by
  have hsign : Apart [.text ['=', '>']] := .text _ trivial
  have harrow : Apart arrow := (hsign.blanks (opensSign_text (by decide))).parameters
  exact apart_binding keyword harrow fun c hc hopens =>
    (blank_apart hc).2.2.2 (opensSign_parameters c hopens)

theorem apart_bareArrow (keyword : String) : Apart (binding keyword ++ bareArrow) := by
  have hsign : Apart [.text ['=', '>']] := .text _ trivial
  have harrow : Apart bareArrow := hsign.named (by decide) (opensSign_text (by decide))
  refine apart_binding keyword harrow fun c hc hopens => ?_
  have hword : Text.isWordChar c = true := hopens
  simp [(blank_apart hc).1] at hword

theorem apart_functionValue (keyword : String) : Apart (binding keyword ++ functionValue) := by
  have hlist : Apart [.parameters] := .parameters trivial
  have hvalue : Apart functionValue := (hlist.blanks opensSign_parameters).text "function".toList
  refine apart_binding keyword hvalue fun c hc hopens => ?_
  obtain rfl : c = 'f' := eq_of_beq hopens
  exact absurd hc (by decide)

end Pattern

theorem apart_of_mem_functionPatterns {p : Pattern} (hp : p ∈ functionPatterns) : p.Apart := by
  have hlist : Pattern.Apart [.parameters] := .parameters trivial
  have hnamed : Pattern.Apart [.name, .blanks, .parameters] :=
    hlist.named (by decide) Pattern.opensSign_parameters
  simp only [functionPatterns, List.mem_cons, List.not_mem_nil, or_false] at hp
  rcases hp with rfl | rfl | rfl | rfl | rfl | rfl | rfl | rfl
  · exact hnamed.someBlanks.text "function".toList
  · exact Pattern.apart_functionValue "const"
  · exact Pattern.apart_arrow "const"
  · exact Pattern.apart_bareArrow "const"
  · exact Pattern.apart_functionValue "let"
  · exact Pattern.apart_arrow "let"
  · exact Pattern.apart_functionValue "var"
  · exact Pattern.apart_arrow "var"

theorem count_name_of_mem_functionPatterns :
    ∀ p ∈ functionPatterns, p.count .name = 1 := by
  decide +kernel

theorem apart_classPattern : classPattern.Apart := by
  have hname : Pattern.Apart [.name] := ⟨.inl rfl, trivial⟩
  refine ⟨.inr fun c hc => ?_, hname.someBlanks.text "class".toList⟩
  cases hc

theorem apart_methodPattern : methodPattern.Apart := by
  have hbrace : Pattern.Apart [.text ['\x7b']] := .text _ trivial
  have hlist := (hbrace.blanks (Pattern.opensSign_text (by decide))).parameters
  refine ⟨.inr fun c hc => ?_, hlist.named (by decide) Pattern.opensSign_parameters⟩
  cases hc

theorem count_name_classPattern : classPattern.count .name = 1 := by decide +kernel

theorem count_name_methodPattern : methodPattern.count .name = 1 := by decide +kernel

theorem signatures_eq (p : Pattern) (line : Nat) (text : List Char) (os : List Occurrence)
    (test : String → Bool) :
    ((os.map (p.matchOf line text)).filter fun m => test m.name).map signatureOf =
      (os.filter fun o => test (p.nameIn o.parts)).map fun o =>
        ⟨p.nameIn o.parts, line + (text.take o.start).count '\n', [], none, false⟩ := by
  rw [List.filter_map, List.map_map]
  rfl

/-- The functions of a text: for each of the eight patterns in turn, all that its scan finds but the
names that are not taken for functions. -/
theorem functions_eq_scans (text : List Char) :
    ∃ scans : Pattern → List Occurrence,
      (∀ p ∈ functionPatterns, Scan p text 0 (scans p) ∧ ∀ os, Scan p text 0 os → os = scans p) ∧
      functions text = functionPatterns.flatMap fun p =>
        ((scans p).filter fun o => p.nameIn o.parts ∉ builtins).map fun o =>
          ⟨p.nameIn o.parts, lineAt text o.start, [], none, false⟩ := by
  have hfound (p : Pattern) : ∃ os, p ∈ functionPatterns →
      Scan p text 0 os ∧ p.matches text = os.map (p.matchOf 1 text) := by
    by_cases hp : p ∈ functionPatterns
    · obtain ⟨os, hos⟩ := p.matches_eq (count_name_of_mem_functionPatterns p hp)
        (apart_of_mem_functionPatterns hp) text
      exact ⟨os, fun _ => hos⟩
    · exact ⟨[], fun h => absurd h hp⟩
  choose scans hscans using hfound
  refine ⟨scans, fun p hp => ⟨(hscans p hp).1, fun os hos => (hscans p hp).1.unique hos⟩, ?_⟩
  rw [functions]
  refine List.flatMap_congr fun p hp => ?_
  rw [(hscans p hp).2, signatures_eq p 1 text (scans p) fun name => !builtins.contains name]
  simp [lineAt]

-- The parameters of a name that is left out may hold another function, which is not found then.
example : functions "function Math(a, function f()".toList = [] := by decide +kernel

end Scaffold.JavaScript
