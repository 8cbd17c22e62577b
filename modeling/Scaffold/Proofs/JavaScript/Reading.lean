import Mathlib.Data.List.Lex
import Scaffold.JavaScript.Pattern

namespace Scaffold.JavaScript

def lineAt (text : List Char) (i : Nat) : Nat := 1 + (text.take i).count '\n'

def byteAt (text : List Char) (i : Nat) : Nat := (String.ofList (text.take i)).utf8ByteSize

def Piece.Takes (text : List Char) (i : Nat) (part : List Char) : Piece → Prop
  | boundary =>
      part = [] ∧
        (text.take i).getLast?.any Text.isWordChar ≠ (text.drop i).head?.any Text.isWordChar
  | .text cs => part = cs
  | blanks => ∀ c ∈ part, Text.isBlank c
  | someBlanks => part ≠ [] ∧ ∀ c ∈ part, Text.isBlank c
  | name => ∃ c cs, part = c :: cs ∧ isNameStart c ∧ ∀ d ∈ cs, isNamePart d
  | word => part ≠ [] ∧ ∀ c ∈ part, Text.isWordChar c
  | parameters => ∃ inside, part = '(' :: inside ++ [')'] ∧ ')' ∉ inside

namespace Pattern

inductive Reads (text : List Char) : Nat → Pattern → List (List Char) → Prop
  | nil {i : Nat} : Reads text i [] []
  | cons {i : Nat} {piece : Piece} {p : Pattern} {part : List Char} {parts : List (List Char)}
      (inside : part <+: text.drop i) (takes : piece.Takes text i part)
      (rest : Reads text (i + part.length) p parts) : Reads text i (piece :: p) (part :: parts)

def Occurs (p : Pattern) (text : List Char) (i : Nat) : Prop := ∃ parts, Reads text i p parts

/-- The reading that counts: where another one first differs from it, the part of this one is the
longer one. -/
def First (p : Pattern) (text : List Char) (i : Nat) (parts : List (List Char)) : Prop :=
  Reads text i p parts ∧
    ∀ others, Reads text i p others → others.map List.length ≤ parts.map List.length

def nameIn (p : Pattern) (parts : List (List Char)) : String :=
  String.ofList (((p.zip parts).lookup .name).getD [])

end Pattern

structure Occurrence where
  start : Nat
  parts : List (List Char)

namespace Occurrence

def stop (o : Occurrence) : Nat := o.start + o.parts.flatten.length

end Occurrence

/-- The occurrences of a pattern from a place on: each is the leftmost one after the end of the one
before, and after the last one there is none. -/
inductive Scan (p : Pattern) (text : List Char) : Nat → List Occurrence → Prop
  | done {i : Nat} (none : ∀ j, i ≤ j → ¬ p.Occurs text j) : Scan p text i []
  | found {i : Nat} {o : Occurrence} {os : List Occurrence} (after : i ≤ o.start)
      (none : ∀ j, i ≤ j → j < o.start → ¬ p.Occurs text j)
      (first : p.First text o.start o.parts) (rest : Scan p text o.stop os) : Scan p text i (o :: os)

theorem drop_add_length {text part after : List Char} {i : Nat} (h : part ++ after = text.drop i) :
    text.drop (i + part.length) = after := by
  rw [← List.drop_drop, ← h, List.drop_left]

namespace Pattern

variable {p : Pattern} {text : List Char} {i : Nat} {parts others : List (List Char)}

theorem Reads.flatten_isPrefix (h : Reads text i p parts) : parts.flatten <+: text.drop i := by
  induction h with
  | nil => exact List.nil_prefix
  | @cons i piece p part parts inside takes rest ih =>
      obtain ⟨after, hrest⟩ := inside
      rw [drop_add_length hrest] at ih
      rw [List.flatten_cons, ← hrest]
      exact (List.prefix_append_right_inj part).mpr ih

theorem Reads.flatten_ne_nil (h : Reads text i p parts) (hname : .name ∈ p) :
    parts.flatten ≠ [] := by
  induction h with
  | nil => simp at hname
  | @cons i piece p part parts inside takes rest ih =>
      rcases List.mem_cons.mp hname with rfl | hname
      · obtain ⟨c, cs, rfl, -⟩ := takes
        simp
      · simp only [List.flatten_cons, ne_eq, List.append_eq_nil_iff, not_and]
        exact fun _ => ih hname

theorem Reads.lt_length (h : Reads text i p parts) (hname : .name ∈ p) : i < text.length := by
  by_contra hi
  have hdrop : text.drop i = [] := List.drop_eq_nil_iff.mpr (by omega)
  have hpre := h.flatten_isPrefix
  rw [hdrop] at hpre
  exact h.flatten_ne_nil hname (List.prefix_nil.mp hpre)

theorem Reads.eq_of_map_length (h : Reads text i p parts) (h' : Reads text i p others)
    (hl : others.map List.length = parts.map List.length) : others = parts := by
  induction h generalizing others with
  | nil =>
      cases h'
      rfl
  | @cons i piece p part parts inside takes rest ih =>
      cases h' with
      | @cons _ _ _ part' others inside' takes' rest' =>
          simp only [List.map_cons, List.cons.injEq] at hl
          obtain rfl : part' = part :=
            (List.prefix_of_prefix_length_le inside' inside hl.1.le).eq_of_length hl.1
          rw [ih rest' hl.2]

theorem First.unique (h : p.First text i parts) (h' : p.First text i others) : others = parts :=
  h.1.eq_of_map_length h'.1 (le_antisymm (h.2 others h'.1) (h'.2 parts h.1))

end Pattern

namespace Scan

variable {p : Pattern} {text : List Char} {i : Nat} {os others : List Occurrence}

theorem unique (h : Scan p text i os) (h' : Scan p text i others) : others = os := by
  induction h generalizing others with
  | done none =>
      cases h' with
      | done _ => rfl
      | found after _ first _ => exact absurd ⟨_, first.1⟩ (none _ after)
  | @found i o os after none first rest ih =>
      cases h' with
      | done none' => exact absurd ⟨_, first.1⟩ (none' _ after)
      | @found _ o' os' after' none' first' rest' =>
          have hstart : o'.start = o.start := by
            rcases lt_trichotomy o'.start o.start with hlt | heq | hlt
            · exact absurd ⟨_, first'.1⟩ (none _ after' hlt)
            · exact heq
            · exact absurd ⟨_, first.1⟩ (none' _ after hlt)
          obtain ⟨start, parts⟩ := o
          obtain ⟨start', parts'⟩ := o'
          obtain rfl : start' = start := hstart
          obtain rfl : parts' = parts := first.unique first'
          rw [ih rest']

theorem of_mem (h : Scan p text i os) : ∀ o ∈ os, i ≤ o.start ∧ p.First text o.start o.parts := by
  induction h with
  | done _ => simp
  | @found i o os after none first rest ih =>
      intro o' ho'
      rcases List.mem_cons.mp ho' with rfl | ho'
      · exact ⟨after, first⟩
      · obtain ⟨hstop, hfirst⟩ := ih o' ho'
        exact ⟨after.trans ((Nat.le_add_right _ _).trans hstop), hfirst⟩

theorem start_lt_length (h : Scan p text i os) (hname : .name ∈ p) :
    ∀ o ∈ os, o.start < text.length :=
  fun o ho => (h.of_mem o ho).2.1.lt_length hname

theorem pairwise (h : Scan p text i os) : os.Pairwise fun o o' => o.stop ≤ o'.start := by
  induction h with
  | done _ => exact .nil
  | found after none first rest ih => exact .cons (fun o' ho' => (rest.of_mem o' ho').1) ih

theorem nil_of_length_le (hname : .name ∈ p) (hi : text.length ≤ i) : Scan p text i [] := by
  refine .done ?_
  rintro j hj ⟨parts, hreads⟩
  have hlt := hreads.lt_length hname
  omega

theorem skip (h : Scan p text (i + 1) os) (hi : ¬ p.Occurs text i) : Scan p text i os := by
  have hlate : ∀ j, i ≤ j → p.Occurs text j → i + 1 ≤ j := by
    intro j hj ho
    rcases Nat.eq_or_lt_of_le hj with rfl | hlt
    · exact absurd ho hi
    · exact hlt
  cases h with
  | done none => exact .done fun j hj ho => none j (hlate j hj ho) ho
  | found after none first rest =>
      exact .found (by omega) (fun j hj hlt ho => none j (hlate j hj ho) hlt ho) first rest

end Scan

end Scaffold.JavaScript
