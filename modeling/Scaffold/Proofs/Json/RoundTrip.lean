import Mathlib.Data.List.DropRight
import Scaffold.Proofs.Json.Reader

namespace Scaffold.Json

mutual

def Value.datum : Value → Datum
  | .null => .null
  | .bool b => .bool b
  | .number n => .number ⟨n, 0⟩
  | .string s => .string s
  | .array vs => .array (itemData vs)
  | .object ms => .object (memberData ms)

def itemData : List Value → List Datum
  | [] => []
  | v :: vs => v.datum :: itemData vs

def memberData : List (String × Value) → List (String × Datum)
  | [] => []
  | (name, v) :: ms => (name, v.datum) :: memberData ms

end

theorem hexValue?_hexDigit : ∀ n < 16, hexValue? (hexDigit n) = some n := by
  decide

theorem readEscape_unit {c : Char} (h : c.toNat < 32) (rest : List Char) :
    readEscape ('u' :: '0' :: '0' :: hexDigit (c.toNat / 16) :: hexDigit (c.toNat % 16) :: rest) =
      some (c, rest) := by
  have hhigh := hexValue?_hexDigit (c.toNat / 16) (by omega)
  have hlow := hexValue?_hexDigit (c.toNat % 16) (Nat.mod_lt _ (by decide))
  have hzero : hexValue? '0' = some 0 := rfl
  have hunit : readUnit ('0' :: '0' :: hexDigit (c.toNat / 16) :: hexDigit (c.toNat % 16) :: rest) =
      some (c.toNat, rest) := by
    simp only [readUnit, hzero, hhigh, hlow, Option.bind_eq_bind, Option.bind_some, Option.pure_def,
      Option.some.injEq, Prod.mk.injEq, and_true]
    omega
  have hplane : c.toNat < 0xD800 ∨ 0xDFFF < c.toNat := Or.inl (by omega)
  simp only [readEscape, ↓reduceIte, readCodePoint, hunit, Option.bind_eq_bind, Option.bind_some,
    hplane, Option.pure_def, Char.ofNat_toNat]

theorem readChars_backslash {c : Char} {cs rest : List Char} (h : readEscape cs = some (c, rest)) :
    readChars ('\\' :: cs) = (readChars rest).map fun p => (c :: p.1, p.2) := by
  rw [readChars, if_neg (by decide), if_pos rfl]
  split
  · next hread =>
    rw [h] at hread
    cases hread
  · next d after hread =>
    rw [h] at hread
    cases hread
    rfl

theorem readChars_escapeChar (c : Char) (cs : List Char) :
    readChars (escapeChar c ++ cs) = (readChars cs).map fun p => (c :: p.1, p.2) := by
  unfold escapeChar
  split_ifs with hquote hbackslash hline hreturn htab hback hfeed hcontrol
  · subst hquote
    exact readChars_backslash rfl
  · subst hbackslash
    exact readChars_backslash rfl
  · subst hline
    exact readChars_backslash rfl
  · subst hreturn
    exact readChars_backslash rfl
  · subst htab
    exact readChars_backslash rfl
  · obtain rfl : c = '\x08' := Char.toNat_inj.mp hback
    exact readChars_backslash rfl
  · obtain rfl : c = '\x0c' := Char.toNat_inj.mp hfeed
    exact readChars_backslash rfl
  · exact readChars_backslash (readEscape_unit hcontrol cs)
  · rw [List.cons_append, List.nil_append, readChars, if_neg hquote, if_neg hbackslash,
      if_neg hcontrol]

theorem readChars_quote (s : String) (rest : List Char) :
    readChars (s.toList.flatMap escapeChar ++ '"' :: rest) = some (s.toList, rest) := by
  induction s.toList with
  | nil => simp [readChars]
  | cons c cs ih => rw [List.flatMap_cons, List.append_assoc, readChars_escapeChar, ih]; rfl

theorem digitChar_ne_zero : ∀ n < 10, 0 < n → n.digitChar ≠ '0' := by
  decide

theorem head?_toDigits_ne_zero {n : Nat} (h : 0 < n) : (Nat.toDigits 10 n).head? ≠ some '0' := by
  induction n using Nat.strongRecOn with
  | ind n ih =>
      by_cases hn : n < 10
      · rw [Nat.toDigits_of_lt_base hn]
        exact fun hzero => digitChar_ne_zero n hn h (Option.some.inj hzero)
      · rw [Nat.toDigits_of_base_le (by decide) (by omega), List.head?_append]
        have hdiv := ih (n / 10) (by omega) (by omega)
        cases hhead : (Nat.toDigits 10 (n / 10)).head? with
        | none => simp at hhead
        | some c =>
            rw [hhead] at hdiv
            exact hdiv

/-- What may follow a value: nothing that could go on with a number. -/
def Closes (rest : List Char) : Prop :=
  ∀ c ∈ rest.head?, ¬ c.isDigit ∧ c ≠ '.' ∧ c ≠ 'e' ∧ c ≠ 'E'

theorem readDigits_toDigits (n : Nat) {rest : List Char} (h : Closes rest) :
    readDigits (Nat.toDigits 10 n ++ rest) = some (Nat.toDigits 10 n, rest) := by
  have hdigits : ∀ c ∈ Nat.toDigits 10 n, c.isDigit = true := fun c hc =>
    Nat.isDigit_of_mem_toDigits (by decide) (by decide) hc
  have hrest : rest.takeWhile Char.isDigit = [] ∧ rest.dropWhile Char.isDigit = rest := by
    cases rest with
    | nil => exact ⟨rfl, rfl⟩
    | cons c cs => simp [(h c rfl).1]
  rw [readDigits, List.takeWhile_append_of_pos hdigits, List.dropWhile_append_of_pos hdigits,
    hrest.1, hrest.2, List.append_nil]
  simp

theorem readWhole_toDigits (n : Nat) {rest : List Char} (h : Closes rest) :
    readWhole (Nat.toDigits 10 n ++ rest) = some (n, rest) := by
  have hlead : ¬ ((Nat.toDigits 10 n).head? = some '0' ∧ Nat.toDigits 10 n ≠ ['0']) := by
    rintro ⟨hzero, hne⟩
    cases n with
    | zero => exact hne rfl
    | succ n => exact head?_toDigits_ne_zero (Nat.succ_pos n) hzero
  rw [readWhole, readDigits_toDigits n h]
  simp [hlead, Nat.ofDigitChars_ten_toDigits]

theorem readFraction_of_closes {rest : List Char} (h : Closes rest) :
    readFraction rest = some ([], rest) := by
  cases rest with
  | nil => rfl
  | cons c cs => simp [readFraction, (h c rfl).2.1]

theorem readExponent_of_closes {rest : List Char} (h : Closes rest) :
    readExponent rest = some (0, rest) := by
  cases rest with
  | nil => rfl
  | cons c cs => simp [readExponent, (h c rfl).2.2]

theorem exists_toDigits (n : Nat) : ∃ c cs, Nat.toDigits 10 n = c :: cs ∧ c.isDigit = true := by
  cases h : Nat.toDigits 10 n with
  | nil => simp at h
  | cons c cs =>
      refine ⟨c, cs, rfl, Nat.isDigit_of_mem_toDigits (b := 10) (n := n) (by decide) (by decide) ?_⟩
      simp [h]

theorem readNumber_toDigits (n : Nat) {rest : List Char} (h : Closes rest) :
    readNumber (Nat.toDigits 10 n ++ rest) = some (.number ⟨n, 0⟩, rest) := by
  have hminus : (Nat.toDigits 10 n).head? ≠ some '-' := by
    obtain ⟨c, cs, hcs, hc⟩ := exists_toDigits n
    intro hhead
    rw [hcs] at hhead
    obtain rfl : c = '-' := Option.some.inj hhead
    exact absurd hc (by decide)
  simp [readNumber, hminus, readWhole_toDigits n h, readFraction_of_closes h, readExponent_of_closes h,
    signed]

theorem isSpace_of_isDigit {c : Char} (h : c.isDigit = true) : isSpace c = false := by
  refine Bool.eq_false_iff.mpr fun hspace => ?_
  simp only [isSpace, Bool.or_eq_true, decide_eq_true_eq] at hspace
  rcases hspace with ((rfl | rfl) | rfl) | rfl <;> exact absurd h (by decide)

theorem skipSpace_newline (depth : Nat) (cs : List Char) :
    skipSpace (newline depth ++ cs) = skipSpace cs := by
  have hspace : ∀ c ∈ newline depth, isSpace c = true := by
    intro c hc
    rcases List.mem_cons.mp hc with rfl | hc
    · rfl
    · rw [List.eq_of_mem_replicate hc]
      rfl
  rw [skipSpace, List.dropWhile_append_of_pos hspace]
  rfl

theorem skipSpace_cons {c : Char} (h : isSpace c = false) (cs : List Char) :
    skipSpace (c :: cs) = c :: cs := by
  simp [skipSpace, h]

theorem skipSpace_skipSpace (cs : List Char) : skipSpace (skipSpace cs) = skipSpace cs :=
  List.dropWhile_idempotent isSpace cs

theorem readValue_skipSpace (size : Nat) (cs : List Char) :
    readValue size (skipSpace cs) = readValue size cs := by
  cases size with
  | zero => rfl
  | succ size => rw [readValue, readValue, skipSpace_skipSpace]

theorem readItems_skipSpace (size : Nat) (cs : List Char) :
    readItems size (skipSpace cs) = readItems size cs := by
  cases size with
  | zero => rfl
  | succ size => rw [readItems, readItems, readValue_skipSpace]

theorem readMembers_skipSpace (size : Nat) (cs : List Char) :
    readMembers size (skipSpace cs) = readMembers size cs := by
  cases size with
  | zero => rfl
  | succ size => rw [readMembers, readMembers, skipSpace_skipSpace]

theorem readValue_newline (size depth : Nat) (cs : List Char) :
    readValue size (newline depth ++ cs) = readValue size cs := by
  rw [← readValue_skipSpace, skipSpace_newline, readValue_skipSpace]

theorem readValue_blank (size : Nat) (cs : List Char) : readValue size (' ' :: cs) = readValue size cs := by
  rw [← readValue_skipSpace, ← readValue_skipSpace size cs]
  rfl

theorem readValue_plain {c : Char} (h : c ∉ [' ', '\t', '\n', '\r', '"', '[', '{']) (size : Nat)
    (cs : List Char) : readValue (size + 1) (c :: cs) = readPlain (c :: cs) := by
  simp only [List.mem_cons, List.not_mem_nil, or_false, not_or] at h
  have hspace : isSpace c = false := by simp [isSpace, h]
  rw [readValue, skipSpace_cons hspace]
  split <;> simp_all

theorem readValue_number (n size : Nat) {rest : List Char} (h : Closes rest) :
    readValue (size + 1) (Nat.toDigits 10 n ++ rest) = some (.number ⟨n, 0⟩, rest) := by
  obtain ⟨c, cs, hcs, hc⟩ := exists_toDigits n
  have hword (w : List Char) {d : Char} {ds : List Char} (hw : w = d :: ds) (hd : d.isDigit = false) :
      w.isPrefixOf (Nat.toDigits 10 n ++ rest) = false := by
    have hne : d ≠ c := by
      rintro rfl
      simp [hd] at hc
    simp [hw, hcs, List.isPrefixOf, hne]
  have hplain : c ∉ [' ', '\t', '\n', '\r', '"', '[', '{'] := by
    intro hmem
    have hnone : ([' ', '\t', '\n', '\r', '"', '[', '{'].all fun d => !d.isDigit) = true := by decide
    have hdigit := List.all_eq_true.mp hnone c hmem
    simp [hc] at hdigit
  rw [hcs, List.cons_append, readValue_plain hplain, ← List.cons_append, ← hcs, readPlain,
    hword "null".toList rfl (by decide), hword "true".toList rfl (by decide),
    hword "false".toList rfl (by decide), ← readNumber_toDigits n h]
  rfl

theorem closes_newline (depth : Nat) (cs : List Char) : Closes (newline depth ++ cs) := by
  rintro c hc
  cases hc
  decide

theorem closes_comma (cs : List Char) : Closes (',' :: cs) := by
  rintro c hc
  cases hc
  decide

theorem readValue_array {size : Nat} {cs after : List Char} {c : Char} (h : skipSpace cs = c :: after)
    (hc : c ≠ ']') :
    readValue (size + 1) ('[' :: cs) = (readItems size cs).map fun p => (.array p.1, p.2) := by
  rw [← readItems_skipSpace, readValue, skipSpace_cons (by rfl)]
  simp only [h]
  split
  · next heq => exact absurd (List.cons.inj heq).1 hc
  · rfl

theorem readValue_object {size : Nat} {cs after : List Char} {c : Char} (h : skipSpace cs = c :: after)
    (hc : c ≠ '}') :
    readValue (size + 1) ('{' :: cs) = (readMembers size cs).map fun p => (.object p.1, p.2) := by
  rw [← readMembers_skipSpace, readValue, skipSpace_cons (by rfl)]
  simp only [h]
  split
  · next heq => exact absurd (List.cons.inj heq).1 hc
  · rfl

section Steps

variable {size : Nat} {cs tail after : List Char} {v : Datum} {name : List Char}

theorem readItems_last (hv : readValue size cs = some (v, tail)) (ht : skipSpace tail = ']' :: after) :
    readItems (size + 1) cs = some ([v], after) := by
  simp [readItems, hv, ht]

theorem readItems_more (hv : readValue size cs = some (v, tail)) (ht : skipSpace tail = ',' :: after) :
    readItems (size + 1) cs = (readItems size after).map fun p => (v :: p.1, p.2) := by
  simp [readItems, hv, ht]

theorem readMembers_last (hname : readChars cs = some (name, ':' :: ' ' :: after))
    (hv : readValue size after = some (v, tail)) {rest : List Char} (ht : skipSpace tail = '}' :: rest) :
    readMembers (size + 1) ('"' :: cs) = some ([(String.ofList name, v)], rest) := by
  simp [readMembers, skipSpace_cons (show isSpace '"' = false by rfl), hname,
    skipSpace_cons (show isSpace ':' = false by rfl), readValue_blank, hv, ht]

theorem readMembers_more (hname : readChars cs = some (name, ':' :: ' ' :: after))
    (hv : readValue size after = some (v, tail)) {rest : List Char} (ht : skipSpace tail = ',' :: rest) :
    readMembers (size + 1) ('"' :: cs) =
      (readMembers size rest).map fun p => ((String.ofList name, v) :: p.1, p.2) := by
  simp [readMembers, skipSpace_cons (show isSpace '"' = false by rfl), hname,
    skipSpace_cons (show isSpace ':' = false by rfl), readValue_blank, hv, ht]

end Steps

theorem Value.exists_chars (v : Value) (depth : Nat) :
    ∃ c cs, v.chars depth = c :: cs ∧ isSpace c = false ∧ c ≠ ']' := by
  cases v with
  | null => exact ⟨'n', _, rfl, rfl, by decide⟩
  | bool b => cases b <;> exact ⟨_, _, rfl, rfl, by decide⟩
  | number n =>
      obtain ⟨c, cs, hcs, hc⟩ := exists_toDigits n
      refine ⟨c, cs, by rw [Value.chars, Nat.toString_eq_ofList_toDigits, String.toList_ofList, hcs], ?_, ?_⟩
      · exact isSpace_of_isDigit hc
      · rintro rfl
        exact absurd hc (by decide)
  | string s => exact ⟨'"', _, rfl, rfl, by decide⟩
  | array vs =>
      rw [Value.chars]
      split <;> exact ⟨'[', _, rfl, rfl, by decide⟩
  | object ms =>
      rw [Value.chars]
      split <;> exact ⟨'{', _, rfl, rfl, by decide⟩

theorem Value.chars_array (v : Value) (vs : List Value) (depth : Nat) (rest : List Char) :
    (Value.array (v :: vs)).chars depth ++ rest =
      '[' :: (itemChars (depth + 1) (v :: vs) ++ (newline depth ++ ']' :: rest)) := by
  simp [Value.chars]

theorem Value.chars_object (m : String × Value) (ms : List (String × Value)) (depth : Nat)
    (rest : List Char) :
    (Value.object (m :: ms)).chars depth ++ rest =
      '{' :: (memberChars (depth + 1) (m :: ms) ++ (newline depth ++ '}' :: rest)) := by
  simp [Value.chars]

theorem length_itemChars (v : Value) (vs : List Value) (depth : Nat) :
    (v.chars depth).length < (itemChars depth (v :: vs)).length ∧
      (itemChars depth vs).length < (itemChars depth (v :: vs)).length := by
  simp only [itemChars, newline, List.length_append, List.length_cons]
  omega

theorem length_memberChars (name : String) (v : Value) (ms : List (String × Value)) (depth : Nat) :
    (v.chars depth).length < (memberChars depth ((name, v) :: ms)).length ∧
      (memberChars depth ms).length < (memberChars depth ((name, v) :: ms)).length := by
  simp only [memberChars, newline, List.length_append, List.length_cons]
  omega

theorem length_array (vs : List Value) (v : Value) (depth : Nat) :
    (itemChars (depth + 1) (v :: vs)).length < ((Value.array (v :: vs)).chars depth).length := by
  have h := congrArg List.length (Value.chars_array v vs depth [])
  simp only [List.append_nil, List.length_cons, List.length_append] at h
  omega

theorem length_object (ms : List (String × Value)) (m : String × Value) (depth : Nat) :
    (memberChars (depth + 1) (m :: ms)).length < ((Value.object (m :: ms)).chars depth).length := by
  have h := congrArg List.length (Value.chars_object m ms depth [])
  simp only [List.append_nil, List.length_cons, List.length_append] at h
  omega

theorem skipSpace_itemChars (v : Value) (vs : List Value) (depth : Nat) (rest : List Char) :
    ∃ c cs, skipSpace (itemChars depth (v :: vs) ++ rest) = c :: cs ∧ c ≠ ']' := by
  obtain ⟨c, cs, hcs, hspace, hc⟩ := v.exists_chars depth
  have hfirst (after : List Char) : skipSpace (newline depth ++ (c :: cs ++ after)) = c :: (cs ++ after) := by
    rw [skipSpace_newline]
    exact skipSpace_cons hspace _
  rw [itemChars, List.append_assoc, List.append_assoc, List.append_assoc, hcs, hfirst]
  exact ⟨c, _, rfl, hc⟩

theorem skipSpace_memberChars (m : String × Value) (ms : List (String × Value)) (depth : Nat)
    (rest : List Char) : ∃ cs, skipSpace (memberChars depth (m :: ms) ++ rest) = '"' :: cs := by
  obtain ⟨name, v⟩ := m
  rw [memberChars, List.append_assoc, List.append_assoc, List.append_assoc, List.append_assoc,
    List.append_assoc, skipSpace_newline, quote]
  exact ⟨_, skipSpace_cons (by rfl) _⟩

theorem skipSpace_closing {c : Char} (h : isSpace c = false) (depth : Nat) (rest : List Char) :
    skipSpace (newline depth ++ c :: rest) = c :: rest := by
  rw [skipSpace_newline, skipSpace_cons h]

mutual

/-- The reader takes a value off a text and leaves what follows. The induction is on the value, along
the recursion of the printer. -/
theorem Value.readValue_chars (v : Value) (depth size : Nat) (rest : List Char)
    (hsize : (v.chars depth).length ≤ size) (hrest : Closes rest) :
    readValue size (v.chars depth ++ rest) = some (v.datum, rest) := by
  cases size with
  | zero =>
      obtain ⟨c, cs, hcs, -⟩ := v.exists_chars depth
      simp [hcs] at hsize
  | succ size =>
      cases v with
      | null => rfl
      | bool b => cases b <;> rfl
      | number n =>
          rw [Value.chars, Nat.toString_eq_ofList_toDigits, String.toList_ofList]
          exact readValue_number n size hrest
      | string s =>
          have hread := readChars_quote s rest
          rw [Value.chars, quote, List.cons_append, List.cons_append, readValue,
            skipSpace_cons (by rfl), List.append_assoc, List.singleton_append]
          simp [hread, Value.datum]
      | array vs =>
          cases vs with
          | nil => rfl
          | cons v vs =>
              have hlength := length_array vs v depth
              obtain ⟨c, cs, hskip, hc⟩ := skipSpace_itemChars v vs (depth + 1) (newline depth ++ ']' :: rest)
              rw [Value.chars_array, readValue_array hskip hc,
                readItems_itemChars (v :: vs) (by simp) (depth + 1) depth size rest (by omega)]
              rfl
      | object ms =>
          cases ms with
          | nil => rfl
          | cons m ms =>
              have hlength := length_object ms m depth
              obtain ⟨cs, hskip⟩ := skipSpace_memberChars m ms (depth + 1) (newline depth ++ '}' :: rest)
              rw [Value.chars_object, readValue_object hskip (by decide),
                readMembers_memberChars (m :: ms) (by simp) (depth + 1) depth size rest (by omega)]
              rfl

theorem readItems_itemChars (vs : List Value) (hne : vs ≠ []) (depth outer size : Nat) (rest : List Char)
    (hsize : (itemChars depth vs).length ≤ size) :
    readItems size (itemChars depth vs ++ (newline outer ++ ']' :: rest)) = some (itemData vs, rest) := by
  cases vs with
  | nil => exact absurd rfl hne
  | cons v vs =>
      have hlength := length_itemChars v vs depth
      cases size with
      | zero => omega
      | succ size =>
          have hv (after : List Char) (hafter : Closes after) :
              readValue size (newline depth ++ (v.chars depth ++ after)) = some (v.datum, after) := by
            rw [readValue_newline]
            exact v.readValue_chars depth size after (by omega) hafter
          by_cases hvs : vs = []
          · have hchars : itemChars depth (v :: vs) = newline depth ++ v.chars depth := by
              simp [itemChars, hvs]
            rw [hchars, List.append_assoc,
              readItems_last (hv _ (closes_newline _ _)) (skipSpace_closing (by rfl) _ _), hvs]
            rfl
          · have hchars : itemChars depth (v :: vs) =
                newline depth ++ (v.chars depth ++ ',' :: itemChars depth vs) := by
              simp [itemChars, hvs]
            rw [hchars, List.append_assoc, List.append_assoc, List.cons_append,
              readItems_more (hv _ (closes_comma _)) (skipSpace_cons (by rfl) _),
              readItems_itemChars vs hvs depth outer size rest (by omega)]
            rfl

theorem readMembers_memberChars (ms : List (String × Value)) (hne : ms ≠ []) (depth outer size : Nat)
    (rest : List Char) (hsize : (memberChars depth ms).length ≤ size) :
    readMembers size (memberChars depth ms ++ (newline outer ++ '}' :: rest)) =
      some (memberData ms, rest) := by
  cases ms with
  | nil => exact absurd rfl hne
  | cons m ms =>
      obtain ⟨name, v⟩ := m
      have hlength := length_memberChars name v ms depth
      have hname (after : List Char) := readChars_quote name (':' :: ' ' :: after)
      cases size with
      | zero => omega
      | succ size =>
          have hv (after : List Char) (hafter : Closes after) :
              readValue size (v.chars depth ++ after) = some (v.datum, after) :=
            v.readValue_chars depth size after (by omega) hafter
          by_cases hms : ms = []
          · have hchars (after : List Char) : memberChars depth ((name, v) :: ms) ++ after =
                newline depth ++ '"' :: (name.toList.flatMap escapeChar ++
                  '"' :: ':' :: ' ' :: (v.chars depth ++ after)) := by
              simp [memberChars, quote, hms]
            rw [hchars, ← readMembers_skipSpace, skipSpace_closing (by rfl),
              readMembers_last (hname _) (hv _ (closes_newline _ _)) (skipSpace_closing (by rfl) _ _),
              String.ofList_toList, hms]
            rfl
          · have hchars (after : List Char) : memberChars depth ((name, v) :: ms) ++ after =
                newline depth ++ '"' :: (name.toList.flatMap escapeChar ++
                  '"' :: ':' :: ' ' :: (v.chars depth ++ ',' :: (memberChars depth ms ++ after))) := by
              simp [memberChars, quote, hms]
            rw [hchars, ← readMembers_skipSpace, skipSpace_closing (by rfl),
              readMembers_more (hname _) (hv _ (closes_comma _)) (skipSpace_cons (by rfl) _),
              String.ofList_toList, readMembers_memberChars ms hms depth outer size rest (by omega)]
            rfl

end

theorem parse?_render (v : Value) : parse? v.render = some v.datum := by
  have hread := v.readValue_chars 0 v.render.length [] (by simp [Value.render]) (by simp [Closes])
  rw [List.append_nil] at hread
  have htext : v.render.toList = v.chars 0 := String.toList_ofList
  rw [parse?, htext, hread]
  rfl

end Scaffold.Json
