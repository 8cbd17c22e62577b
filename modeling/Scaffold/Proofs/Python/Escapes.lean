import Mathlib.Algebra.Group.Nat.Defs
import Mathlib.Data.List.Forall2
import Scaffold.Python.Literal

namespace Scaffold.Python.Literal

def IsDigit (base : Nat) (c : Char) (v : Nat) : Prop :=
  v < base ∧ (c = v.digitChar ∨ c = v.digitChar.toUpper)

def Numeral (base : Nat) (digits : List Char) (n : Nat) : Prop :=
  ∃ values, List.Forall₂ (IsDigit base) digits values ∧ values.foldl (fun n v => n * base + v) 0 = n

def singles : List (Char × Char) :=
  [('n', '\n'), ('t', '\t'), ('r', '\r'), ('a', '\x07'), ('b', '\x08'), ('f', '\x0c'), ('v', '\x0b'),
    ('\\', '\\'), ('\'', '\''), ('"', '"')]

def widths : List (Char × Nat) := [('x', 2), ('u', 4), ('U', 8)]

/-- What an escape stands for, given the texts after the backslash that belong to it and that do not. Which texts
are numbers of a width is left open. -/
inductive Escapes (number : Nat → List Char → Nat → Prop) : List Char → List Char → List Char → Prop
  | single {c d : Char} {rest : List Char} : (c, d) ∈ singles → Escapes number [c] rest [d]
  | newline {rest : List Char} : Escapes number ['\n'] rest []
  | octal {digits rest : List Char} {d : Char} : digits ≠ [] → digits.length ≤ 3 → Numeral 8 digits d.toNat →
      (digits.length < 3 → ∀ c ∈ rest.head?, ∀ v, ¬ IsDigit 8 c v) → Escapes number digits rest [d]
  | numbered {k : Char} {width : Nat} {digits rest : List Char} {d : Char} : (k, width) ∈ widths →
      number width digits d.toNat → Escapes number (k :: digits) rest [d]
  | kept {c : Char} {rest : List Char} : (∀ d, (c, d) ∉ singles) → c ≠ '\n' → (∀ v, ¬ IsDigit 8 c v) →
      (∀ width digits d, (c, width) ∈ widths → digits <+: rest → ¬ number width digits (Char.toNat d)) →
      Escapes number [c] rest ['\\', c]

inductive Decodes (number : Nat → List Char → Nat → Prop) : List Char → List Char → Prop
  | nil : Decodes number [] []
  | plain {c : Char} {rest out : List Char} : c ≠ '\\' → Decodes number rest out →
      Decodes number (c :: rest) (c :: out)
  | escape {esc rest decoded out : List Char} : Escapes number esc rest decoded → Decodes number rest out →
      Decodes number ('\\' :: (esc ++ rest)) (decoded ++ out)

def Hex (width : Nat) (digits : List Char) (n : Nat) : Prop := digits.length = width ∧ Numeral 16 digits n

/-- The same, but a plus sign may stand in the place of the first digit. -/
def SignedHex (width : Nat) (digits : List Char) (n : Nat) : Prop :=
  Hex width digits n ∨ ∃ rest, digits = '+' :: rest ∧ rest.length + 1 = width ∧ Numeral 16 rest n

/-- A reader of digits that knows ASCII alone reads what it should if it does so on ASCII. -/
theorem eq_some_iff_isDigit {base : Nat} {read? : Char → Option Nat}
    (hascii : ∀ c v, read? c = some v → c.toNat < 128)
    (hsound : ∀ n < 128, ∀ v ∈ read? (.ofNat n), v < base ∧
      (Char.ofNat n = v.digitChar ∨ Char.ofNat n = v.digitChar.toUpper))
    (hcomplete : ∀ v < base, read? v.digitChar = some v ∧ read? v.digitChar.toUpper = some v) {c : Char} {v : Nat} :
    read? c = some v ↔ IsDigit base c v := by
  constructor
  · intro h
    have hc := hsound c.toNat (hascii c v h) v
    rw [Char.ofNat_toNat] at hc
    exact hc h
  · rintro ⟨hv, rfl | rfl⟩
    · exact (hcomplete v hv).1
    · exact (hcomplete v hv).2

theorem octal?_eq_some_iff {c : Char} {v : Nat} : octal? c = some v ↔ IsDigit 8 c v := by
  refine eq_some_iff_isDigit (fun c v h => ?_) (by decide +kernel) (by decide)
  rw [octal?] at h
  split at h
  · next hc => exact Nat.lt_of_le_of_lt hc.2 (by decide)
  · cases h

theorem hex?_eq_some_iff {c : Char} {v : Nat} : hex? c = some v ↔ IsDigit 16 c v := by
  refine eq_some_iff_isDigit (fun c v h => ?_) (by decide +kernel) (by decide)
  rw [hex?] at h
  split at h
  · next hc => exact Nat.lt_of_le_of_lt hc.2 (by decide)
  · split at h
    · next hc => exact Nat.lt_of_le_of_lt hc.2 (by decide)
    · split at h
      · next hc => exact Nat.lt_of_le_of_lt hc.2 (by decide)
      · cases h

theorem char?_eq_some_iff {n : Nat} {d : Char} : char? n = some d ↔ d.toNat = n := by
  rw [char?]
  constructor
  · intro h
    split at h
    · next hn =>
        obtain rfl := Option.some.inj h
        rw [Char.ofNat, dif_pos hn]
        rfl
    · cases h
  · rintro rfl
    have hvalid : d.toNat < 0xD800 ∨ (0xDFFF < d.toNat ∧ d.toNat < 0x110000) := d.valid
    rw [if_pos hvalid, Char.ofNat_toNat]

/-- Digits are ASCII, and none of the signs that begin an escape or a number. -/
theorem IsDigit.plain {base : Nat} (hbase : base ≤ 16) {c : Char} {v : Nat} (h : IsDigit base c v) :
    c.toNat < 128 ∧ c ≠ '\\' ∧ c ≠ '+' := by
  have hall : ∀ v < 16, (v.digitChar.toNat < 128 ∧ v.digitChar ≠ '\\' ∧ v.digitChar ≠ '+') ∧
      v.digitChar.toUpper.toNat < 128 ∧ v.digitChar.toUpper ≠ '\\' ∧ v.digitChar.toUpper ≠ '+' := by decide
  obtain ⟨hv, rfl | rfl⟩ := h
  · exact (hall v (Nat.lt_of_lt_of_le hv hbase)).1
  · exact (hall v (Nat.lt_of_lt_of_le hv hbase)).2

theorem Numeral.plain {base : Nat} (hbase : base ≤ 16) {digits : List Char} {n : Nat} (h : Numeral base digits n) :
    ∀ c ∈ digits, c.toNat < 128 ∧ c ≠ '\\' ∧ c ≠ '+' := by
  obtain ⟨values, hvalues, -⟩ := h
  intro c hc
  induction hvalues with
  | nil => cases hc
  | cons hdigit _ ih =>
      obtain rfl | hc := List.mem_cons.mp hc
      · exact hdigit.plain hbase
      · exact ih hc

def withDigit (n : Option Nat) (c : Char) : Option Nat := do some ((← n) * 16 + (← hex? c))

theorem foldl_withDigit_none (digits : List Char) : digits.foldl withDigit none = none := by
  induction digits with
  | nil => rfl
  | cons c digits ih => exact ih

theorem foldl_withDigit_eq_some_iff {digits : List Char} {a n : Nat} : digits.foldl withDigit (some a) = some n ↔
    ∃ values, List.Forall₂ (IsDigit 16) digits values ∧ values.foldl (fun n v => n * 16 + v) a = n := by
  induction digits generalizing a with
  | nil => simp
  | cons c digits ih =>
      rw [List.foldl_cons]
      cases hc : hex? c with
      | none =>
          have hstep : withDigit (some a) c = none := by simp [withDigit, hc]
          rw [hstep, foldl_withDigit_none]
          constructor
          · intro h
            cases h
          · rintro ⟨values, hvalues, -⟩
            cases hvalues with
            | cons hdigit _ => cases hc.symm.trans (hex?_eq_some_iff.mpr hdigit)
      | some v =>
          have hstep : withDigit (some a) c = some (a * 16 + v) := by simp [withDigit, hc]
          rw [hstep, ih]
          constructor
          · rintro ⟨values, hvalues, hfold⟩
            exact ⟨v :: values, .cons (hex?_eq_some_iff.mp hc) hvalues, hfold⟩
          · rintro ⟨values, hvalues, hfold⟩
            cases hvalues with
            | cons hdigit hvalues =>
                obtain rfl := Option.some.inj (hc.symm.trans (hex?_eq_some_iff.mpr hdigit))
                exact ⟨_, hvalues, hfold⟩

theorem foldl_withDigit_iff_numeral {digits : List Char} {n : Nat} :
    (if digits.isEmpty then none else digits.foldl withDigit (some 0)) = some n ↔
      digits ≠ [] ∧ Numeral 16 digits n := by
  cases digits with
  | nil => simp
  | cons c digits => exact foldl_withDigit_eq_some_iff.trans (by simp [Numeral])

theorem hexNumber?_eq_some_iff {digits : List Char} {n : Nat} : hexNumber? digits = some n ↔
    digits ≠ [] ∧ Numeral 16 digits n ∨ ∃ rest, digits = '+' :: rest ∧ rest ≠ [] ∧ Numeral 16 rest n := by
  by_cases hsign : ∃ rest, digits = '+' :: rest
  · obtain ⟨rest, rfl⟩ := hsign
    have hplus : ¬ Numeral 16 ('+' :: rest) n := fun h => (h.plain (Nat.le_refl 16) '+' (.head _)).2.2 rfl
    have hread : hexNumber? ('+' :: rest) = if rest.isEmpty then none else rest.foldl withDigit (some 0) := rfl
    rw [hread, foldl_withDigit_iff_numeral]
    simp [hplus]
  · have hread : hexNumber? digits = if digits.isEmpty then none else digits.foldl withDigit (some 0) := by
      delta hexNumber?
      dsimp only
      split
      · next rest => exact absurd ⟨rest, rfl⟩ hsign
      · rfl
    rw [hread, foldl_withDigit_iff_numeral]
    constructor
    · exact .inl
    · rintro (h | ⟨rest, hrest, -⟩)
      · exact h
      · exact absurd ⟨rest, hrest⟩ hsign

theorem utf8ByteSize_ascii {cs : List Char} (h : ∀ c ∈ cs, c.toNat < 128) :
    (String.ofList cs).utf8ByteSize = cs.length := by
  induction cs with
  | nil => rfl
  | cons c cs ih =>
      have hc : c.utf8Size = 1 := Char.utf8Size_eq_one_iff.mpr (Nat.le_of_lt_succ (h c (.head _)))
      rw [String.ofList_cons, String.utf8ByteSize_append, String.utf8ByteSize_singleton, hc,
        ih fun d hd => h d (.tail _ hd), List.length_cons, Nat.add_comm]

/-- The numbers of a width are what is read at it. That a sign has to have digits after it is no matter, since
every width is greater than one. -/
theorem signedHex_iff {width : Nat} (hwidth : 1 < width) {digits : List Char} {n : Nat} :
    SignedHex width digits n ↔ (String.ofList digits).utf8ByteSize = width ∧ hexNumber? digits = some n := by
  have hsize (ds : List Char) (n : Nat) (h : Numeral 16 ds n) : (String.ofList ds).utf8ByteSize = ds.length :=
    utf8ByteSize_ascii fun c hc => (h.plain (Nat.le_refl 16) c hc).1
  have hsign (rest : List Char) :
      (String.ofList ('+' :: rest)).utf8ByteSize = (String.ofList rest).utf8ByteSize + 1 := by
    rw [String.ofList_cons, String.utf8ByteSize_append, String.utf8ByteSize_singleton, Nat.add_comm]
    rfl
  rw [hexNumber?_eq_some_iff]
  constructor
  · rintro (⟨hlength, hnumeral⟩ | ⟨rest, rfl, hlength, hnumeral⟩)
    · refine ⟨(hsize _ _ hnumeral).trans hlength, .inl ⟨?_, hnumeral⟩⟩
      rintro rfl
      simp [← hlength] at hwidth
    · refine ⟨by rw [hsign, hsize _ _ hnumeral, hlength], .inr ⟨rest, rfl, ?_, hnumeral⟩⟩
      rintro rfl
      simp [← hlength] at hwidth
  · rintro ⟨hwidth, ⟨-, hnumeral⟩ | ⟨rest, rfl, -, hnumeral⟩⟩
    · exact .inl ⟨(hsize _ _ hnumeral).symm.trans hwidth, hnumeral⟩
    · rw [hsign, hsize _ _ hnumeral] at hwidth
      exact .inr ⟨rest, rfl, hwidth, hnumeral⟩

theorem SignedHex.length_eq {width n : Nat} {digits : List Char} (h : SignedHex width digits n) :
    digits.length = width := by
  obtain ⟨hlength, -⟩ | ⟨rest, rfl, hlength, -⟩ := h
  · exact hlength
  · exact hlength

theorem simpleEscape?_eq_some_iff {c d : Char} : simpleEscape? c = some d ↔ (c, d) ∈ singles := by
  constructor
  · intro h
    unfold simpleEscape? at h
    split at h <;> cases h <;> decide
  · have hall : ∀ p ∈ singles, simpleEscape? p.1 = some p.2 := by decide
    exact hall (c, d)

theorem width?_eq_some_iff {k : Char} {width : Nat} : width? k = some width ↔ (k, width) ∈ widths := by
  constructor
  · intro h
    unfold width? at h
    split at h <;> cases h <;> decide
  · have hall : ∀ p ∈ widths, width? p.1 = some p.2 := by decide
    exact hall (k, width)

theorem octalDigits_append {count : Nat} {digits rest : List Char} {values : List Nat}
    (hdigits : List.Forall₂ (IsDigit 8) digits values) (hlength : digits.length ≤ count)
    (hrest : digits.length < count → ∀ c ∈ rest.head?, ∀ v, ¬ IsDigit 8 c v) :
    octalDigits count (digits ++ rest) = values := by
  induction hdigits generalizing count with
  | nil =>
      cases count with
      | zero => simp [octalDigits]
      | succ count =>
          cases rest with
          | nil => simp [octalDigits]
          | cons c rest =>
              have hc : octal? c = none := by
                rw [Option.eq_none_iff_forall_ne_some]
                exact fun v hv => hrest (by simp) c rfl v (octal?_eq_some_iff.mp hv)
              simp [octalDigits, hc]
  | cons hdigit _ ih =>
      cases count with
      | zero => simp at hlength
      | succ count =>
          simp only [List.length_cons, Nat.add_le_add_iff_right, Nat.add_lt_add_iff_right] at hlength hrest
          rw [List.cons_append, octalDigits, octal?_eq_some_iff.mpr hdigit]
          dsimp only
          rw [ih hlength hrest]

theorem IsDigit.not_single {c : Char} {v : Nat} (h : IsDigit 8 c v) : simpleEscape? c = none ∧ c ≠ '\n' := by
  have hall : ∀ v < 8, (simpleEscape? v.digitChar = none ∧ v.digitChar ≠ '\n') ∧
      simpleEscape? v.digitChar.toUpper = none ∧ v.digitChar.toUpper ≠ '\n' := by decide
  obtain ⟨hv, rfl | rfl⟩ := h
  · exact (hall v hv).1
  · exact (hall v hv).2

theorem not_single_of_mem_widths {k : Char} {width : Nat} (h : (k, width) ∈ widths) :
    simpleEscape? k = none ∧ k ≠ '\n' ∧ octal? k = none ∧ 1 < width := by
  have hall : ∀ p ∈ widths, simpleEscape? p.1 = none ∧ p.1 ≠ '\n' ∧ octal? p.1 = none ∧ 1 < p.2 := by decide
  exact hall (k, width) h

/-- An escape is decoded as the rules say, and no more of the text is taken for it. -/
theorem escape_of_escapes {esc rest out : List Char} (h : Escapes SignedHex esc rest out) :
    escape (esc ++ rest) = (out, esc.length) := by
  cases h with
  | single hsingle =>
      rw [List.singleton_append, escape, simpleEscape?_eq_some_iff.mpr hsingle]
      rfl
  | newline => rfl
  | octal hne hlength hnumeral hrest =>
      obtain ⟨values, hvalues, hfold⟩ := hnumeral
      cases hvalues with
      | nil => exact absurd rfl hne
      | @cons c v digits values hdigit hvalues =>
          simp only [List.length_cons] at hlength hrest
          have hmore : octalDigits 2 (digits ++ rest) = values :=
            octalDigits_append hvalues (by omega) fun h => hrest (by omega)
          obtain ⟨hsingle, hnewline⟩ := hdigit.not_single
          rw [List.cons_append, escape, hsingle, if_neg hnewline, octal?_eq_some_iff.mpr hdigit, hmore]
          dsimp only
          rw [hfold, char?_eq_some_iff.mpr rfl, List.length_cons, List.length_cons, hvalues.length_eq]
          rfl
  | @numbered k width digits _ d hk hnumber =>
      obtain ⟨hsingle, hnewline, hoctal, hwidth⟩ := not_single_of_mem_widths hk
      obtain ⟨hsize, hread⟩ := (signedHex_iff hwidth).mp hnumber
      have htake : (digits ++ rest).take width = digits := by rw [← hnumber.length_eq, List.take_left]
      rw [List.cons_append, escape, hsingle, if_neg hnewline, hoctal, width?_eq_some_iff.mpr hk]
      dsimp only
      rw [htake, if_pos hsize, hread, Option.bind_some, char?_eq_some_iff.mpr rfl, List.length_cons, hnumber.length_eq]
  | @kept c _ hsingle hnewline hoctal hnumber =>
      have hsingle' : simpleEscape? c = none := by
        rw [Option.eq_none_iff_forall_ne_some]
        exact fun d hd => hsingle d (simpleEscape?_eq_some_iff.mp hd)
      have hoctal' : octal? c = none := by
        rw [Option.eq_none_iff_forall_ne_some]
        exact fun v hv => hoctal v (octal?_eq_some_iff.mp hv)
      rw [List.singleton_append, escape, hsingle', if_neg hnewline, hoctal']
      dsimp only
      split
      · next width hwidth =>
          have hk := width?_eq_some_iff.mp hwidth
          split
          · next hsize =>
              split
              · next d hd =>
                  obtain ⟨n, hread, hchar⟩ := Option.bind_eq_some_iff.mp hd
                  obtain rfl := char?_eq_some_iff.mp hchar
                  have hsigned := (signedHex_iff (not_single_of_mem_widths hk).2.2.2).mpr ⟨hsize, hread⟩
                  exact absurd hsigned (hnumber width _ d hk (List.take_prefix width rest))
              · rfl
          · rfl
      · rfl

theorem unescape_plain {c : Char} (h : c ≠ '\\') (rest : List Char) : unescape (c :: rest) = c :: unescape rest := by
  rw [unescape, if_neg h]

theorem unescape_escaped {esc rest decoded : List Char} (h : Escapes SignedHex esc rest decoded) :
    unescape ('\\' :: (esc ++ rest)) = decoded ++ unescape rest := by
  rw [unescape, if_pos rfl, escape_of_escapes h]
  dsimp only
  rw [List.drop_left]

theorem unescape_of_decodes {body out : List Char} (h : Decodes SignedHex body out) : unescape body = out := by
  induction h with
  | nil => rw [unescape]
  | plain hc _ ih => rw [unescape_plain hc, ih]
  | escape hescape _ ih => rw [unescape_escaped hescape, ih]

/-- Whether a text does not end in the middle of an escape, so that what comes after it is not escaped. -/
def isPaired : List Char → Bool
  | [] => true
  | c :: cs =>
    if c = '\\' then
      match cs with
      | [] => false
      | _ :: cs => isPaired cs
    else isPaired cs

theorem isPaired_plain {c : Char} (h : c ≠ '\\') (cs : List Char) : isPaired (c :: cs) = isPaired cs := by
  rw [isPaired.eq_def]
  simp [h]

theorem isPaired_escaped (c : Char) (cs : List Char) : isPaired ('\\' :: c :: cs) = isPaired cs := by
  rw [isPaired.eq_def]
  simp

@[elab_as_elim]
theorem plain_induction {motive : List Char → Prop} {before : List Char} (h : '\\' ∉ before) (nil : motive [])
    (cons : ∀ c cs, c ≠ '\\' → motive cs → motive (c :: cs)) : motive before := by
  induction before with
  | nil => exact nil
  | cons c before ih =>
      simp only [List.mem_cons, not_or] at h
      exact cons c before (Ne.symm h.1) (ih h.2)

theorem isPaired_append {before : List Char} (h : '\\' ∉ before) (cs : List Char) :
    isPaired (before ++ cs) = isPaired cs := by
  refine plain_induction h rfl ?_
  intro c before hc ih
  rw [List.cons_append, isPaired_plain hc, ih]

theorem exists_octal (count : Nat) (cs : List Char) : ∃ digits values rest, cs = digits ++ rest ∧
    List.Forall₂ (IsDigit 8) digits values ∧ digits.length ≤ count ∧
    (digits.length < count → ∀ c ∈ rest.head?, ∀ v, ¬ IsDigit 8 c v) := by
  induction count generalizing cs with
  | zero => exact ⟨[], [], cs, rfl, .nil, Nat.le_refl 0, by simp⟩
  | succ count ih =>
      cases cs with
      | nil => exact ⟨[], [], [], rfl, .nil, by simp, by simp⟩
      | cons c cs =>
          by_cases hc : ∃ v, IsDigit 8 c v
          · obtain ⟨v, hv⟩ := hc
            obtain ⟨digits, values, rest, rfl, hdigits, hlength, hrest⟩ := ih cs
            refine ⟨c :: digits, v :: values, rest, rfl, .cons hv hdigits, by simpa using hlength, fun h => ?_⟩
            exact hrest (by simpa using h)
          · exact ⟨[], [], c :: cs, rfl, .nil, by simp, fun _ d hd v hv => hc ⟨v, by
              obtain rfl : c = d := by simpa using hd
              exact hv⟩⟩

theorem foldl_lt {base : Nat} {digits : List Char} {values : List Nat}
    (h : List.Forall₂ (IsDigit base) digits values) (a : Nat) :
    values.foldl (fun n v => n * base + v) a < (a + 1) * base ^ digits.length := by
  induction h generalizing a with
  | nil => simp
  | @cons c v digits values hdigit _ ih =>
      rw [List.foldl_cons, List.length_cons]
      calc _ < (a * base + v + 1) * base ^ digits.length := ih _
        _ ≤ ((a + 1) * base) * base ^ digits.length := by
            refine Nat.mul_le_mul_right _ ?_
            have hv := hdigit.1
            rw [Nat.add_mul, Nat.one_mul]
            omega
        _ = (a + 1) * base ^ (digits.length + 1) := by rw [Nat.mul_assoc, Nat.pow_succ, Nat.mul_comm base]

theorem exists_char {digits : List Char} {values : List Nat} (h : List.Forall₂ (IsDigit 8) digits values)
    (hlength : digits.length ≤ 3) : ∃ d : Char, values.foldl (fun n v => n * 8 + v) 0 = d.toNat := by
  have hlt : values.foldl (fun n v => n * 8 + v) 0 < 8 ^ 3 :=
    calc _ < (0 + 1) * 8 ^ digits.length := foldl_lt h 0
      _ ≤ (0 + 1) * 8 ^ 3 := Nat.mul_le_mul_left _ (Nat.pow_le_pow_right (by decide) hlength)
      _ = 8 ^ 3 := by decide
  refine ⟨.ofNat (values.foldl (fun n v => n * 8 + v) 0), ?_⟩
  rw [char?_eq_some_iff.mp (if_pos (.inl (by omega)))]

/-- Every text after a backslash begins with an escape, of which no later character is a backslash. -/
theorem exists_escapes {number : Nat → List Char → Nat → Prop}
    (hnumber : ∀ width digits n, number width digits n → '\\' ∉ digits) (c : Char) (cs : List Char) :
    ∃ more rest out, cs = more ++ rest ∧ '\\' ∉ more ∧ Escapes number (c :: more) rest out := by
  by_cases hsingle : ∃ d, (c, d) ∈ singles
  · obtain ⟨d, hd⟩ := hsingle
    exact ⟨[], cs, [d], rfl, by simp, .single hd⟩
  by_cases hnewline : c = '\n'
  · subst hnewline
    exact ⟨[], cs, [], rfl, by simp, .newline⟩
  by_cases hoctal : ∃ v, IsDigit 8 c v
  · obtain ⟨v, hv⟩ := hoctal
    obtain ⟨digits, values, rest, rfl, hdigits, hlength, hrest⟩ := exists_octal 2 cs
    have hnumeral : List.Forall₂ (IsDigit 8) (c :: digits) (v :: values) := .cons hv hdigits
    obtain ⟨d, hd⟩ := exists_char hnumeral (Nat.succ_le_succ hlength)
    have hplain : ∀ x ∈ digits, x ≠ '\\' := fun x hx =>
      ((Numeral.plain (by decide) ⟨values, hdigits, rfl⟩) x hx).2.1
    refine ⟨digits, rest, [d], rfl, fun h => hplain _ h rfl, .octal (by simp) (Nat.succ_le_succ hlength)
      ⟨v :: values, hnumeral, hd⟩ fun h => hrest (Nat.lt_of_succ_lt_succ h)⟩
  by_cases hnumbered : ∃ width digits d, (c, width) ∈ widths ∧ digits <+: cs ∧ number width digits (Char.toNat d)
  · obtain ⟨width, digits, d, hk, ⟨rest, rfl⟩, hdigits⟩ := hnumbered
    exact ⟨digits, rest, [d], rfl, hnumber _ _ _ hdigits, .numbered hk hdigits⟩
  · refine ⟨[], cs, ['\\', c], rfl, by simp, .kept ?_ hnewline ?_ ?_⟩
    · exact fun d hd => hsingle ⟨d, hd⟩
    · exact fun v hv => hoctal ⟨v, hv⟩
    · exact fun width digits d hk hprefix hdigits => hnumbered ⟨width, digits, d, hk, hprefix, hdigits⟩

theorem exists_decodes {number : Nat → List Char → Nat → Prop}
    (hnumber : ∀ width digits n, number width digits n → '\\' ∉ digits) {body : List Char} (h : isPaired body = true) :
    ∃ out, Decodes number body out := by
  -- by the number of characters, since an escape takes more than one
  induction hn : body.length using Nat.strongRecOn generalizing body with
  | ind n ih =>
      subst hn
      match body with
      | [] => exact ⟨[], .nil⟩
      | c :: cs =>
          by_cases hc : c = '\\'
          · subst hc
            match cs with
            | [] => cases h
            | c :: cs =>
                obtain ⟨more, rest, decoded, rfl, hmore, hescape⟩ := exists_escapes hnumber c cs
                rw [isPaired_escaped, isPaired_append hmore] at h
                obtain ⟨out, hout⟩ := ih rest.length (by simp; omega) h rfl
                exact ⟨decoded ++ out, .escape hescape hout⟩
          · rw [isPaired_plain hc] at h
            obtain ⟨out, hout⟩ := ih cs.length (by simp) h rfl
            exact ⟨c :: out, .plain hc hout⟩

end Scaffold.Python.Literal
