import Scaffold.Proofs.Python.Literals

namespace Scaffold.Python.Literal

inductive Spells (quote : List Char) : Char → List Char → Prop
  | plain {c : Char} : c ≠ '\\' → c ∉ quote → Spells quote c [c]
  | single {c e : Char} : (e, c) ∈ singles → Spells quote c ['\\', e]
  | octal {c : Char} {digits : List Char} : digits.length = 3 → Numeral 8 digits c.toNat →
      Spells quote c ('\\' :: digits)
  | numbered {c k : Char} {width : Nat} {digits : List Char} : (k, width) ∈ widths → Hex width digits c.toNat →
      Spells quote c ('\\' :: k :: digits)

/-- The ways to write a text: character by character, with continued lines anywhere between them. -/
inductive Written (quote : List Char) : List Char → List Char → Prop
  | nil : Written quote [] []
  | continued {text body : List Char} : Written quote text body → Written quote text ('\\' :: '\n' :: body)
  | char {c : Char} {spelling text body : List Char} : Spells quote c spelling → Written quote text body →
      Written quote (c :: text) (spelling ++ body)

/-- No spelling runs into what comes after it: the octal digits are as many as there can be, and the others say how
many characters they have. -/
theorem Spells.decodes {quote spelling rest out : List Char} {c : Char} (h : Spells quote c spelling)
    (hrest : Decodes SignedHex rest out) : Decodes SignedHex (spelling ++ rest) (c :: out) := by
  cases h with
  | plain hc _ => exact .plain hc hrest
  | @single e hsingle =>
      have hescape : Escapes SignedHex [e] rest [c] := .single hsingle
      exact .escape hescape hrest
  | @octal digits hlength hnumeral =>
      have hne : digits ≠ [] := by
        rintro rfl
        cases hlength
      have hescape : Escapes SignedHex digits rest [c] :=
        .octal hne (Nat.le_of_eq hlength) hnumeral fun h => absurd hlength (Nat.ne_of_lt h)
      exact .escape hescape hrest
  | @numbered k width digits hk hnumber =>
      have hescape : Escapes SignedHex (k :: digits) rest [c] := .numbered hk (.inl hnumber)
      exact .escape hescape hrest

theorem Written.decodes {quote text body : List Char} (h : Written quote text body) : Decodes SignedHex body text := by
  induction h with
  | nil => exact .nil
  | @continued text body _ ih =>
      have hescape : Escapes SignedHex ['\n'] body [] := .newline
      exact .escape hescape ih
  | char hspells _ ih => exact hspells.decodes ih

theorem not_prefix_of_head {quote text : List Char} (hquote : quote ∈ quotes) (h : ∀ c ∈ text.head?, c ∉ quote) :
    ¬ quote <+: text := by
  have hne : ∀ quote ∈ quotes, quote ≠ [] := by decide
  cases quote with
  | nil => exact absurd rfl (hne [] hquote)
  | cons q quote =>
      rintro ⟨rest, rfl⟩
      exact h q rfl (.head _)

/-- An escaped quote does not look like the quote that ends the literal, even at the start of the body. -/
theorem Written.not_prefix {quote text body : List Char} (hquote : quote ∈ quotes) (h : Written quote text body) :
    ¬ quote <+: body := by
  have hbackslash : ∀ quote ∈ quotes, '\\' ∉ quote := by decide
  refine not_prefix_of_head hquote fun d hd => ?_
  cases h with
  | nil => cases hd
  | continued =>
      obtain rfl := Option.some.inj hd
      exact hbackslash quote hquote
  | char hspells _ =>
      cases hspells with
      | plain _ hc =>
          obtain rfl := Option.some.inj hd
          exact hc
      | single | octal | numbered =>
          obtain rfl := Option.some.inj hd
          exact hbackslash quote hquote

/-- A literal stands for the text that is written in it, whichever quote it has and however each character is
spelled. A raw literal does too, where the text has no quote in it. -/
theorem content?_written {quote : List Char} (hquote : quote ∈ quotes) (text : String) :
    (∀ flags ∈ [[], ['u'], ['U']], ∀ body, Written quote text.toList body →
      content? (literal flags quote body) = some text) ∧
    ((∀ c ∈ text.toList, c ∉ quote) → content? (literal ['r'] quote text.toList) = some text) := by
  constructor
  · intro flags hflags body hwritten
    have hplain : ∀ flags ∈ [[], ['u'], ['U']], (∀ c ∈ flags, isQuote c = false) ∧
        ¬ flags.any ['b', 'B', 'f', 'F'].contains = true ∧ ¬ flags.any ['r', 'R'].contains = true := by
      simp [isQuote]
    obtain ⟨hletters, hstring, hcooked⟩ := hplain flags hflags
    rw [content?_quoted hletters hquote (hwritten.not_prefix hquote), if_neg hstring, if_neg hcooked,
      unescape_of_decodes hwritten.decodes, String.ofList_toList]
  · intro hfree
    have hbegin : ¬ quote <+: text.toList :=
      not_prefix_of_head hquote fun c hc => hfree c (List.mem_of_mem_head? hc)
    rw [content?_quoted (by simp [isQuote]) hquote hbegin, if_neg (by simp), if_pos (by simp), String.ofList_toList]

/-- A letter by its number, a continued line and an escaped quote; a raw literal with a backslash in it. -/
theorem content?_written_sample :
    content? (literal ['u'] ['\''] ['\\', 'u', '0', '0', 'E', '9', '\\', '\n', '\\', '\'']) = some "é'" ∧
      content? (literal ['r'] ['"', '"', '"'] "\\d'".toList) = some "\\d'" := by
  have hdigits : List.Forall₂ (IsDigit 16) ['0', '0', 'E', '9'] [0, 0, 14, 9] := by
    simp only [List.forall₂_cons, List.forall₂_nil_left_iff, IsDigit]
    decide
  have hletter : Hex 4 ['0', '0', 'E', '9'] 'é'.toNat := ⟨rfl, [0, 0, 14, 9], hdigits, rfl⟩
  have hwritten : Written ['\''] "é'".toList ['\\', 'u', '0', '0', 'E', '9', '\\', '\n', '\\', '\''] :=
    .char (.numbered (by decide) hletter) (.continued (.char (.single (by decide)) .nil))
  exact ⟨(content?_written (by decide) "é'").1 ['u'] (by decide) _ hwritten,
    (content?_written (by decide) "\\d'").2 (by simp)⟩

end Scaffold.Python.Literal
