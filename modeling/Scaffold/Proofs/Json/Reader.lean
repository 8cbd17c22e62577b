import Mathlib.Tactic.SplitIfs
import Scaffold.Json.Basic

namespace Scaffold.Json

structure Numeral where
  mantissa : Int
  exponent : Int
  deriving DecidableEq, Repr

inductive Datum where
  | null
  | bool (b : Bool)
  | number (x : Numeral)
  | string (s : String)
  | array (items : List Datum)
  | object (members : List (String × Datum))

def isSpace (c : Char) : Bool := c = ' ' || c = '\t' || c = '\n' || c = '\r'

def skipSpace (cs : List Char) : List Char := cs.dropWhile isSpace

def hexValue? (c : Char) : Option Nat :=
  if 48 ≤ c.toNat ∧ c.toNat ≤ 57 then some (c.toNat - 48)
  else if 97 ≤ c.toNat ∧ c.toNat ≤ 102 then some (c.toNat - 87)
  else if 65 ≤ c.toNat ∧ c.toNat ≤ 70 then some (c.toNat - 55)
  else none

def readUnit : List Char → Option (Nat × List Char)
  | a :: b :: c :: d :: rest => do
    let a ← hexValue? a
    let b ← hexValue? b
    let c ← hexValue? c
    let d ← hexValue? d
    return (((a * 16 + b) * 16 + c) * 16 + d, rest)
  | _ => none

/-- The character after `\u`. One beyond the basic plane has two units. -/
def readCodePoint (cs : List Char) : Option (Char × List Char) := do
  let (high, rest) ← readUnit cs
  if high < 0xD800 ∨ 0xDFFF < high then return (Char.ofNat high, rest)
  else if 0xDBFF < high then none
  else
    match rest with
    | '\\' :: 'u' :: rest => do
      let (low, rest) ← readUnit rest
      if 0xDC00 ≤ low ∧ low ≤ 0xDFFF then
        return (Char.ofNat (0x10000 + (high - 0xD800) * 0x400 + (low - 0xDC00)), rest)
      else none
    | _ => none

def escapes : List (Char × Char) :=
  [('"', '"'), ('\\', '\\'), ('/', '/'), ('b', '\x08'), ('f', '\x0c'), ('n', '\n'), ('r', '\r'), ('t', '\t')]

def readEscape : List Char → Option (Char × List Char)
  | [] => none
  | c :: cs => if c = 'u' then readCodePoint cs else (escapes.lookup c).map (·, cs)

theorem length_of_readUnit {cs rest : List Char} {n : Nat} (h : readUnit cs = some (n, rest)) :
    rest.length < cs.length := by
  unfold readUnit at h
  split at h
  · simp only [Option.bind_eq_bind, Option.bind_eq_some_iff, Option.pure_def, Option.some.injEq,
      Prod.mk.injEq] at h
    obtain ⟨-, -, -, -, -, -, -, -, -, rfl⟩ := h
    simp only [List.length_cons]
    omega
  · cases h

theorem length_of_readCodePoint {cs rest : List Char} {c : Char}
    (h : readCodePoint cs = some (c, rest)) : rest.length < cs.length := by
  unfold readCodePoint at h
  obtain ⟨⟨high, after⟩, hunit, h⟩ := Option.bind_eq_some_iff.mp h
  have hafter := length_of_readUnit hunit
  simp only at h
  split_ifs at h
  · obtain ⟨-, rfl⟩ := Prod.mk.inj (Option.some.inj h)
    exact hafter
  · split at h
    · obtain ⟨⟨low, last⟩, hlow, h⟩ := Option.bind_eq_some_iff.mp h
      have hlast := length_of_readUnit hlow
      simp only [List.length_cons] at hafter
      simp only at h
      split_ifs at h
      obtain ⟨-, rfl⟩ := Prod.mk.inj (Option.some.inj h)
      omega
    · cases h

theorem length_of_readEscape {cs rest : List Char} {c : Char}
    (h : readEscape cs = some (c, rest)) : rest.length < cs.length := by
  cases cs with
  | nil => cases h
  | cons d cs =>
      rw [readEscape] at h
      split_ifs at h
      · exact Nat.lt_trans (length_of_readCodePoint h) (Nat.lt_succ_self _)
      · obtain ⟨e, -, he⟩ := Option.map_eq_some_iff.mp h
        cases he
        exact Nat.lt_succ_self _

def readChars : List Char → Option (List Char × List Char)
  | [] => none
  | c :: cs =>
    if c = '"' then some ([], cs)
    else if c = '\\' then
      match _ : readEscape cs with
      | none => none
      | some (d, rest) => (readChars rest).map fun p => (d :: p.1, p.2)
    else if c.toNat < 32 then none
    else (readChars cs).map fun p => (c :: p.1, p.2)
termination_by cs => cs.length
decreasing_by
  · exact Nat.lt_trans (length_of_readEscape ‹_›) (Nat.lt_succ_self _)
  · exact Nat.lt_succ_self _

def readDigits (cs : List Char) : Option (List Char × List Char) :=
  if (cs.takeWhile Char.isDigit).isEmpty then none
  else some (cs.takeWhile Char.isDigit, cs.dropWhile Char.isDigit)

def readWhole (cs : List Char) : Option (Nat × List Char) := do
  let (digits, rest) ← readDigits cs
  if digits.head? = some '0' ∧ digits ≠ ['0'] then none
  else return (Nat.ofDigitChars 10 digits 0, rest)

def readFraction : List Char → Option (List Char × List Char)
  | [] => some ([], [])
  | c :: cs => if c = '.' then readDigits cs else some ([], c :: cs)

def readSign : List Char → Bool × List Char
  | [] => (false, [])
  | c :: cs => if c = '-' then (true, cs) else if c = '+' then (false, cs) else (false, c :: cs)

def signed (negative : Bool) (n : Nat) : Int := if negative then -n else n

def readExponent : List Char → Option (Int × List Char)
  | [] => some (0, [])
  | c :: cs =>
    if c = 'e' ∨ c = 'E' then do
      let (negative, cs) := readSign cs
      let (digits, rest) ← readDigits cs
      return (signed negative (Nat.ofDigitChars 10 digits 0), rest)
    else some (0, c :: cs)

def readNumber (cs : List Char) : Option (Datum × List Char) := do
  let negative := cs.head? = some '-'
  let (whole, cs) ← readWhole (if negative then cs.tail else cs)
  let (fraction, cs) ← readFraction cs
  let (exponent, cs) ← readExponent cs
  return (.number ⟨signed negative (Nat.ofDigitChars 10 fraction whole), exponent - fraction.length⟩, cs)

def readPlain (cs : List Char) : Option (Datum × List Char) :=
  if "null".toList.isPrefixOf cs then some (.null, cs.drop 4)
  else if "true".toList.isPrefixOf cs then some (.bool true, cs.drop 4)
  else if "false".toList.isPrefixOf cs then some (.bool false, cs.drop 5)
  else readNumber cs

mutual

/-- The value at the beginning of a text that has no more than so many characters. -/
def readValue : Nat → List Char → Option (Datum × List Char)
  | 0, _ => none
  | size + 1, cs =>
    match skipSpace cs with
    | '"' :: cs => (readChars cs).map fun p => (.string (String.ofList p.1), p.2)
    | '[' :: cs =>
      match skipSpace cs with
      | ']' :: rest => some (.array [], rest)
      | cs => (readItems size cs).map fun p => (.array p.1, p.2)
    | '{' :: cs =>
      match skipSpace cs with
      | '}' :: rest => some (.object [], rest)
      | cs => (readMembers size cs).map fun p => (.object p.1, p.2)
    | cs => readPlain cs

def readItems : Nat → List Char → Option (List Datum × List Char)
  | 0, _ => none
  | size + 1, cs => do
    let (v, cs) ← readValue size cs
    match skipSpace cs with
    | ',' :: cs => (readItems size cs).map fun p => (v :: p.1, p.2)
    | ']' :: rest => return ([v], rest)
    | _ => none

def readMembers : Nat → List Char → Option (List (String × Datum) × List Char)
  | 0, _ => none
  | size + 1, cs =>
    match skipSpace cs with
    | '"' :: cs => do
      let (name, cs) ← readChars cs
      match skipSpace cs with
      | ':' :: cs => do
        let (v, cs) ← readValue size cs
        match skipSpace cs with
        | ',' :: cs => (readMembers size cs).map fun p => ((String.ofList name, v) :: p.1, p.2)
        | '}' :: rest => return ([(String.ofList name, v)], rest)
        | _ => none
      | _ => none
    | _ => none

end

def parse? (text : String) : Option Datum := do
  let (v, rest) ← readValue text.length text.toList
  if (skipSpace rest).isEmpty then return v else none

end Scaffold.Json
