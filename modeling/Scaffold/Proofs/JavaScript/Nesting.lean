import Mathlib.Order.CompletePartialOrder
import Mathlib.Order.Interval.Set.Disjoint
import Scaffold.Proofs.JavaScript.Braces

namespace Scaffold.JavaScript

variable {bytes : List UInt8} {start first first' e e' j : Nat}

/-- The first brace at or after a place is an opening one. -/
structure Opens (bytes : List UInt8) (start first : Nat) : Prop where
  start_le : start ≤ first
  brace : bytes[first]? = some openingByte
  before : ∀ j < first, start ≤ j → bytes[j]? ≠ some openingByte ∧ bytes[j]? ≠ some closingByte

theorem Opens.depthOf_eq_zero (h : Opens bytes start first) : depthOf (piece bytes start first) = 0 := by
  have hnone (b : UInt8) (hb : b = openingByte ∨ b = closingByte) : (piece bytes start first).count b = 0 := by
    rw [List.count_eq_zero, mem_piece_iff]
    rintro ⟨j, hj, hjlt, hget⟩
    obtain ⟨hopening, hclosing⟩ := h.before j hjlt hj
    rcases hb with rfl | rfl
    · exact hopening hget
    · exact hclosing hget
  rw [depthOf, hnone _ (.inl rfl), hnone _ (.inr rfl)]
  rfl

/-- The end that the search finds lies after the first brace, since no closing brace comes before that one. -/
theorem Opens.lt (h : Opens bytes start first) (hcloses : Closes bytes start e) : first < e := by
  rcases Nat.lt_trichotomy first e with hlt | rfl | hlt
  · exact hlt
  · have heq := h.brace.symm.trans hcloses.brace
    exact absurd (Option.some.inj heq) (by decide)
  · exact absurd hcloses.brace (h.before e hlt hcloses.start_le).2

theorem block_of_opens {text : String} (h : Opens (bytesOf text) start first) (hend : blockEnd? text start = some e) :
    Block (bytesOf text) first e := by
  have hleast := isLeast_of_blockEnd? hend
  exact block_of_isLeast hleast h.start_le (h.lt hleast.1) h.brace h.depthOf_eq_zero

namespace Block

theorem lt (h : Block bytes first e) : first < e := by
  apply lt_of_le_of_ne h.closes.start_le
  rintro rfl
  exact absurd (Option.some.inj (h.opening.symm.trans h.closes.brace)) (by decide)

theorem depthOf_pos (h : Block bytes first e) (hj : first < j) (hje : j ≤ e) : 0 < depthOf (piece bytes first j) := by
  obtain ⟨k, rfl⟩ := Nat.exists_eq_add_of_lt hj
  exact h.inside (first + k) (by omega) (by omega)

theorem end_unique (h : Block bytes first e) (h' : Block bytes first e') : e = e' := by
  have hpos : first < e + 1 := Nat.lt_succ_of_lt h.lt
  have hpos' : first < e' + 1 := Nat.lt_succ_of_lt h'.lt
  rcases Nat.lt_trichotomy e e' with hlt | heq | hlt
  · exact absurd h.closes.balanced (h'.depthOf_pos hpos hlt).ne'
  · exact heq
  · exact absurd h'.closes.balanced (h.depthOf_pos hpos' hlt).ne'

/-- A block that begins inside of another one ends there. Up to the end of the outer block the depth of the inner
one would be positive or zero, and it is positive already where the inner one begins. -/
theorem end_lt (h : Block bytes first e) (h' : Block bytes first' e') (hfirst : first < first') (hle : first' ≤ e) :
    e' < e := by
  by_contra hend
  have hbefore : 0 < depthOf (piece bytes first first') := h.depthOf_pos hfirst hle
  have hafter : 0 ≤ depthOf (piece bytes first' (e + 1)) := by
    rcases Nat.lt_or_eq_of_le (Nat.not_lt.mp hend) with hlt | rfl
    · exact (h'.depthOf_pos (by omega) hlt).le
    · exact h'.closes.balanced.ge
  have hsum : depthOf (piece bytes first first') + depthOf (piece bytes first' (e + 1)) = 0 := by
    rw [← depthOf_append, piece_append hfirst.le (by omega)]
    exact h.closes.balanced
  omega

theorem first_unique (h : Block bytes first e) (h' : Block bytes first' e) : first = first' := by
  rcases Nat.lt_trichotomy first first' with hlt | heq | hlt
  · exact absurd (h.end_lt h' hlt h'.lt.le) (Nat.lt_irrefl e)
  · exact heq
  · exact absurd (h'.end_lt h hlt h.lt.le) (Nat.lt_irrefl e)

theorem lt_or_lt (h : Block bytes first e) (h' : Block bytes first' e') (hfirst : first < first') :
    e < first' ∨ e' < e := by
  rcases Nat.lt_or_ge e first' with hlt | hle
  · exact .inl hlt
  · exact .inr (h.end_lt h' hfirst hle)

theorem nest (h : Block bytes first e) (h' : Block bytes first' e') :
    Disjoint (Set.Icc first e) (Set.Icc first' e') ∨
      Set.Icc first e ⊆ Set.Icc first' e' ∨ Set.Icc first' e' ⊆ Set.Icc first e := by
  have hfrom {first first' e e' : Nat} (h : Block bytes first e) (h' : Block bytes first' e')
      (hlt : first < first') :
      Disjoint (Set.Icc first e) (Set.Icc first' e') ∨ Set.Icc first' e' ⊆ Set.Icc first e := by
    rcases h.lt_or_lt h' hlt with hapart | hinside
    · left
      rw [Set.disjoint_left]
      rintro k ⟨-, hk⟩ ⟨hk', -⟩
      omega
    · exact .inr (Set.Icc_subset_Icc hlt.le hinside.le)
  rcases Nat.lt_trichotomy first first' with hlt | rfl | hlt
  · exact (hfrom h h' hlt).imp_right .inr
  · rw [h.end_unique h']
    exact .inr (.inl subset_rfl)
  · exact (hfrom h' h hlt).imp (·.symm) .inl

end Block

/-- Two searches whose first braces are opening ones find the blocks of these braces. The blocks lie apart or one
of them in the other, and they have one end if and only if they have one opening brace. -/
theorem blocks_nest {text : String} {a b : Nat} (hopens : Opens (bytesOf text) a first)
    (hopens' : Opens (bytesOf text) b first') (hend : blockEnd? text a = some e) (hend' : blockEnd? text b = some e') :
    (Block (bytesOf text) first e ∧ Block (bytesOf text) first' e') ∧
      (Disjoint (Set.Icc first e) (Set.Icc first' e') ∨
        Set.Icc first e ⊆ Set.Icc first' e' ∨ Set.Icc first' e' ⊆ Set.Icc first e) ∧
      (e = e' ↔ first = first') := by
  have h := block_of_opens hopens hend
  have h' := block_of_opens hopens' hend'
  refine ⟨⟨h, h'⟩, h.nest h', ?_, ?_⟩
  · rintro rfl
    exact h.first_unique h'
  · rintro rfl
    exact h.end_unique h'

/-- One search begins inside of a character before the outer block, the other one at the inner block. -/
theorem blocks_nest_nestedBlocks :
    Opens (bytesOf nestedBlocks) 1 2 ∧ Opens (bytesOf nestedBlocks) 3 4 ∧
      blockEnd? nestedBlocks 1 = some 6 ∧ blockEnd? nestedBlocks 3 = some 5 ∧
      Block (bytesOf nestedBlocks) 2 6 ∧ Block (bytesOf nestedBlocks) 4 5 ∧
      Set.Icc 4 5 ⊆ Set.Icc 2 6 := by
  have houter : Opens (bytesOf nestedBlocks) 1 2 := ⟨by decide, by decide, by decide⟩
  have hinner : Opens (bytesOf nestedBlocks) 3 4 := ⟨by decide, by decide, by decide⟩
  have hend : blockEnd? nestedBlocks 1 = some 6 := by decide
  have hend' : blockEnd? nestedBlocks 3 = some 5 := by decide
  obtain ⟨⟨hblock, hblock'⟩, hnest, -⟩ := blocks_nest houter hinner hend hend'
  refine ⟨houter, hinner, hend, hend', hblock, hblock', ?_⟩
  rcases hnest with hapart | hin | hin
  · have hnot : 4 ∉ Set.Icc 4 5 := Set.disjoint_left.mp hapart ⟨by decide, by decide⟩
    exact absurd ⟨by decide, by decide⟩ hnot
  · have htwo : 2 ∈ Set.Icc 4 5 := hin ⟨by decide, by decide⟩
    exact absurd htwo.1 (by decide)
  · exact hin

end Scaffold.JavaScript
