import Mathlib.Data.List.Infix
import Mathlib.Data.Nat.Find
import Mathlib.Order.Bounds.Basic
import Scaffold.Proofs.JavaScript.BlockEnd

namespace Scaffold.JavaScript

open String (utf8EncodeChar utf8Len)

def openingByte : UInt8 := 0x7B

def closingByte : UInt8 := 0x7D

def bytesOf (text : String) : List UInt8 := text.toUTF8.data.toList

def piece (bytes : List UInt8) (i j : Nat) : List UInt8 := (bytes.take j).drop i

def depthOf (bytes : List UInt8) : Int := bytes.count openingByte - bytes.count closingByte

/-- A closing brace up to which there are as many opening braces as closing ones. -/
structure Closes (bytes : List UInt8) (start e : Nat) : Prop where
  start_le : start ≤ e
  brace : bytes[e]? = some closingByte
  balanced : depthOf (piece bytes start (e + 1)) = 0

/-- An opening brace and the closing brace that belongs to it. -/
structure Block (bytes : List UInt8) (first e : Nat) : Prop where
  opening : bytes[first]? = some openingByte
  closes : Closes bytes first e
  inside : ∀ j, first ≤ j → j < e → 0 < depthOf (piece bytes first (j + 1))

variable {bytes bs : List UInt8} {b : UInt8} {depth : Int} {start offset e i j k n : Nat}

theorem depthOf_append (as bs : List UInt8) : depthOf (as ++ bs) = depthOf as + depthOf bs := by
  simp only [depthOf, List.count_append]
  omega

theorem depthOf_cons (b : UInt8) (bs : List UInt8) : depthOf (b :: bs) = depthOf [b] + depthOf bs :=
  depthOf_append [b] bs

theorem depthOf_singleton (b : UInt8) :
    depthOf [b] = if b = openingByte then 1 else if b = closingByte then -1 else 0 := by
  have hne : openingByte ≠ closingByte := by decide
  by_cases ho : b = openingByte
  · subst ho
    simp [depthOf, hne]
  · by_cases hc : b = closingByte <;> simp [depthOf, ho, hc, hne.symm]

theorem piece_append (hij : i ≤ j) (hjk : j ≤ k) : piece bytes i j ++ piece bytes j k = piece bytes i k := by
  have htake : bytes.take j = (bytes.take k).take j := by rw [List.take_take, Nat.min_eq_left hjk]
  have hdrop : (bytes.take k).drop j = ((bytes.take k).drop i).drop (j - i) := by
    rw [List.drop_drop, Nat.add_sub_cancel' hij]
  rw [piece, piece, piece, htake, List.drop_take, hdrop, List.take_append_drop]

theorem piece_succ (hij : i ≤ j) (hb : bytes[j]? = some b) :
    piece bytes i (j + 1) = piece bytes i j ++ [b] := by
  have hlt : j < bytes.length := (List.getElem?_eq_some_iff.mp hb).1
  rw [piece, piece, List.take_add_one, hb, List.drop_append_of_le_length]
  · rfl
  · rw [List.length_take]
    omega

theorem mem_piece_iff : b ∈ piece bytes i j ↔ ∃ k, i ≤ k ∧ k < j ∧ bytes[k]? = some b := by
  rw [List.mem_iff_getElem?]
  simp only [piece, List.getElem?_drop, List.getElem?_take, Option.ite_none_right_eq_some]
  constructor
  · rintro ⟨k, hlt, hk⟩
    exact ⟨i + k, Nat.le_add_right i k, hlt, hk⟩
  · rintro ⟨k, hik, hkj, hk⟩
    exact ⟨k - i, by rw [Nat.add_sub_cancel' hik]; exact ⟨hkj, hk⟩⟩

/-- The scan for the end of a block, byte by byte. -/
def closingIn (depth : Int) (offset : Nat) : List UInt8 → Option Nat
  | [] => none
  | b :: bs =>
    if b = closingByte ∧ depth = 1 then some offset
    else closingIn (depth + depthOf [b]) (offset + 1) bs

def ClosesIn (depth : Int) (bs : List UInt8) (n : Nat) : Prop :=
  bs[n]? = some closingByte ∧ depth + depthOf (bs.take (n + 1)) = 0

theorem closesIn_zero_iff : ClosesIn depth (b :: bs) 0 ↔ b = closingByte ∧ depth = 1 := by
  simp only [ClosesIn, List.getElem?_cons_zero, Option.some.injEq, Nat.zero_add, List.take_succ_cons,
    List.take_zero]
  refine and_congr_right fun hb => ?_
  subst hb
  rw [depthOf_singleton, if_neg (by decide), if_pos rfl]
  omega

theorem closesIn_succ_iff :
    ClosesIn depth (b :: bs) (n + 1) ↔ ClosesIn (depth + depthOf [b]) bs n := by
  rw [ClosesIn, ClosesIn, List.getElem?_cons_succ, List.take_succ_cons, depthOf_cons, Int.add_assoc]

theorem not_closesIn_of_closingIn_eq_none (h : closingIn depth offset bs = none) (n : Nat) :
    ¬ ClosesIn depth bs n := by
  induction bs generalizing depth offset n with
  | nil => simp [ClosesIn]
  | cons b bs ih =>
      rw [closingIn] at h
      split_ifs at h with hclose
      cases n with
      | zero => exact fun hn => hclose (closesIn_zero_iff.mp hn)
      | succ n => exact fun hn => ih h n (closesIn_succ_iff.mp hn)

theorem closesIn_of_closingIn_eq_some (h : closingIn depth offset bs = some e) :
    ∃ n, e = offset + n ∧ ClosesIn depth bs n ∧ ∀ m < n, ¬ ClosesIn depth bs m := by
  induction bs generalizing depth offset with
  | nil => simp [closingIn] at h
  | cons b bs ih =>
      rw [closingIn] at h
      split_ifs at h with hclose
      · obtain rfl : offset = e := Option.some.inj h
        exact ⟨0, rfl, closesIn_zero_iff.mpr hclose, fun m hm => absurd hm (Nat.not_lt_zero m)⟩
      · obtain ⟨n, rfl, hn, hfirst⟩ := ih h
        refine ⟨n + 1, by omega, closesIn_succ_iff.mpr hn, ?_⟩
        intro m hm
        cases m with
        | zero => exact fun h0 => hclose (closesIn_zero_iff.mp h0)
        | succ m => exact fun hm' => hfirst m (Nat.lt_of_succ_lt_succ hm) (closesIn_succ_iff.mp hm')

theorem closes_iff (hle : start ≤ e) :
    Closes bytes start e ↔ ClosesIn 0 (bytes.drop start) (e - start) := by
  have hget : (bytes.drop start)[e - start]? = bytes[e]? := by
    rw [List.getElem?_drop, Nat.add_sub_cancel' hle]
  have hpiece : (bytes.drop start).take (e - start + 1) = piece bytes start (e + 1) := by
    rw [piece, List.drop_take, Nat.sub_add_comm hle]
  rw [ClosesIn, hget, hpiece, Int.zero_add]
  exact ⟨fun h => ⟨h.brace, h.balanced⟩, fun h => ⟨hle, h.1, h.2⟩⟩

def Plain (bs : List UInt8) : Prop := ∀ b ∈ bs, b ≠ openingByte ∧ b ≠ closingByte

theorem closingIn_append (hplain : Plain bytes) :
    closingIn depth offset (bytes ++ bs) = closingIn depth (offset + bytes.length) bs := by
  induction bytes generalizing offset with
  | nil => rfl
  | cons b bytes ih =>
      obtain ⟨ho, hc⟩ := hplain b (List.mem_cons_self ..)
      have hzero : depth + depthOf [b] = depth := by rw [depthOf_singleton, if_neg ho, if_neg hc, Int.add_zero]
      rw [List.cons_append, closingIn, if_neg (fun h => hc h.1), hzero,
        ih (fun b hb => hplain b (List.mem_cons_of_mem _ hb)), List.length_cons, Nat.add_right_comm,
        Nat.add_assoc]

theorem plain_utf8EncodeChar {c : Char} (ho : c ≠ '{') (hc : c ≠ '}') : Plain (utf8EncodeChar c) := by
  have hval : c.val.toNat ≠ 0x7B ∧ c.val.toNat ≠ 0x7D := by
    constructor <;> intro h
    · exact ho (Char.ext (UInt32.toNat_inj.mp h))
    · exact hc (Char.ext (UInt32.toNat_inj.mp h))
  have hbyte (n : Nat) (hn : n % 256 ≠ 0x7B ∧ n % 256 ≠ 0x7D) :
      UInt8.ofNat n ≠ openingByte ∧ UInt8.ofNat n ≠ closingByte := by
    constructor <;> intro h <;> have := congrArg UInt8.toNat h <;>
      simp [openingByte, closingByte] at this <;> omega
  intro b hb
  simp only [utf8EncodeChar] at hb
  split_ifs at hb <;> simp only [List.mem_cons, List.not_mem_nil, or_false] at hb
  · subst hb
    exact hbyte _ (by omega)
  · rcases hb with rfl | rfl <;> exact hbyte _ (by omega)
  · rcases hb with rfl | rfl | rfl <;> exact hbyte _ (by omega)
  · rcases hb with rfl | rfl | rfl | rfl <;> exact hbyte _ (by omega)

theorem closingFrom_eq_closingIn (depth : Int) (offset : Nat) (cs : List Char) :
    closingFrom depth offset cs = closingIn depth offset (cs.flatMap utf8EncodeChar) := by
  induction cs generalizing depth offset with
  | nil => rfl
  | cons c cs ih =>
      rw [closingFrom, List.flatMap_cons]
      split_ifs with ho hc hdepth
      · subst ho
        rw [ih, show utf8EncodeChar '{' = [openingByte] from rfl, List.singleton_append, closingIn,
          if_neg (fun h => absurd h.1 (by decide)), depthOf_singleton, if_pos rfl]
        rfl
      · subst hc
        rw [show utf8EncodeChar '}' = [closingByte] from rfl, List.singleton_append, closingIn,
          if_pos ⟨rfl, hdepth⟩]
      · subst hc
        rw [ih, show utf8EncodeChar '}' = [closingByte] from rfl, List.singleton_append, closingIn,
          if_neg (fun h => hdepth h.2), depthOf_singleton, if_neg (by decide), if_pos rfl]
        rfl
      · rw [ih, closingIn_append (plain_utf8EncodeChar ho hc), String.length_utf8EncodeChar]

theorem fromOffset_of_le (h : start ≤ offset) (cs : List Char) :
    fromOffset start offset cs = (offset, cs) := by
  cases cs with
  | nil => rfl
  | cons c cs => rw [fromOffset, if_pos h]

/-- Only a character of several bytes can be cut, and what is left of it holds no brace. -/
theorem plain_drop_utf8EncodeChar {c : Char} (hpos : 0 < n) (hlt : n < c.utf8Size) :
    Plain ((utf8EncodeChar c).drop n) := by
  have hplain : Plain (utf8EncodeChar c) := by
    refine plain_utf8EncodeChar ?_ ?_
    · rintro rfl
      have : Char.utf8Size '{' = 1 := rfl
      omega
    · rintro rfl
      have : Char.utf8Size '}' = 1 := rfl
      omega
  exact fun b hb => hplain b (List.mem_of_mem_drop hb)

theorem closingFrom_fromOffset (h : offset ≤ start) (cs : List Char) :
    closingFrom depth (fromOffset start offset cs).1 (fromOffset start offset cs).2 =
      closingIn depth start ((cs.flatMap utf8EncodeChar).drop (start - offset)) := by
  induction cs generalizing offset with
  | nil => simp [fromOffset, closingFrom, closingIn]
  | cons c cs ih =>
      have hsize := String.length_utf8EncodeChar c
      rw [fromOffset, List.flatMap_cons]
      split_ifs with hle
      · obtain rfl : start = offset := Nat.le_antisymm hle h
        rw [Nat.sub_self, List.drop_zero, ← List.flatMap_cons, closingFrom_eq_closingIn]
      · rw [List.drop_append, hsize]
        by_cases hnext : offset + c.utf8Size ≤ start
        · have hnil : (utf8EncodeChar c).drop (start - offset) = [] :=
            List.drop_eq_nil_of_le (by omega)
          rw [ih hnext, hnil, List.nil_append, Nat.sub_sub]
        · have hrest : start - offset - c.utf8Size = 0 := by omega
          rw [fromOffset_of_le (by omega), closingFrom_eq_closingIn, hrest, List.drop_zero,
            closingIn_append (plain_drop_utf8EncodeChar (by omega) (by omega)), List.length_drop, hsize]
          congr 1
          omega

theorem bytesOf_eq (text : String) : bytesOf text = text.toList.flatMap utf8EncodeChar := by
  rw [bytesOf, String.toUTF8_eq_toByteArray, ← String.utf8Encode_toList, List.utf8Encode,
    List.toList_data_toByteArray]

theorem blockEnd?_eq_closingIn (text : String) (start : Nat) :
    blockEnd? text start = closingIn 0 start ((bytesOf text).drop start) := by
  rw [blockEnd?, bytesOf_eq]
  exact closingFrom_fromOffset (Nat.zero_le start) text.toList

theorem isLeast_of_blockEnd? {text : String} (h : blockEnd? text start = some e) :
    IsLeast {e | Closes (bytesOf text) start e} e := by
  rw [blockEnd?_eq_closingIn] at h
  obtain ⟨n, rfl, hn, hfirst⟩ := closesIn_of_closingIn_eq_some h
  constructor
  · exact (closes_iff (Nat.le_add_right start n)).mpr (by rwa [Nat.add_sub_cancel_left])
  · intro e' he'
    by_contra hlt
    exact hfirst (e' - start) (by have := he'.start_le; omega) ((closes_iff he'.start_le).mp he')

theorem not_closes_of_blockEnd? {text : String} (h : blockEnd? text start = none) (e : Nat) :
    ¬ Closes (bytesOf text) start e := by
  rw [blockEnd?_eq_closingIn] at h
  exact fun he => not_closesIn_of_closingIn_eq_none h _ ((closes_iff he.start_le).mp he)

theorem exists_fromOffset (start offset : Nat) (cs : List Char) :
    ∃ pre, cs = pre ++ (fromOffset start offset cs).2 ∧
      (fromOffset start offset cs).1 = offset + utf8Len pre := by
  induction cs generalizing offset with
  | nil => exact ⟨[], rfl, rfl⟩
  | cons c cs ih =>
      rw [fromOffset]
      split_ifs with hle
      · exact ⟨[], rfl, rfl⟩
      · obtain ⟨pre, hcs, hoffset⟩ := ih (offset + c.utf8Size)
        refine ⟨c :: pre, congrArg (c :: ·) hcs, ?_⟩
        rw [hoffset, String.utf8Len_cons]
        omega

theorem isValid_of_blockEnd? {text : String} (h : blockEnd? text start = some e) :
    (⟨e⟩ : String.Pos.Raw).IsValid text := by
  obtain ⟨pre, htext, hoffset⟩ := exists_fromOffset start 0 text.toList
  obtain ⟨inside, post, hrest, rfl⟩ := exists_of_closingFrom h
  have hcut : text.toList = (pre ++ inside) ++ '}' :: post := by rw [htext, hrest, List.append_assoc]
  have hbyte : byteAt text.toList (pre ++ inside).length =
      (fromOffset start 0 text.toList).1 + utf8Len inside := by
    rw [byteAt_eq, hcut, List.take_left, String.utf8Len_append, ← hcut, hoffset, Nat.zero_add]
  rw [← hbyte]
  exact isValid_byteAt text _

/-- From an opening brace at depth zero up to the first closing brace that balances, the depth is positive: it
falls by one at a time, and the closing brace that brought it back to zero would be an earlier end. -/
theorem depthOf_pos_of_lt {first : Nat} (hleast : e ∈ lowerBounds {e | Closes bytes start e})
    (hlength : e < bytes.length) (hstart : start ≤ first) (hopen : bytes[first]? = some openingByte)
    (hbefore : depthOf (piece bytes start first) = 0) (hj : first ≤ j) (hje : j < e) :
    0 < depthOf (piece bytes start (j + 1)) := by
  induction j, hj using Nat.le_induction with
  | base =>
      rw [piece_succ hstart hopen, depthOf_append, hbefore]
      decide
  | succ j hj ih =>
      obtain ⟨b, hb⟩ : ∃ b, bytes[j + 1]? = some b := ⟨_, List.getElem?_eq_getElem (by omega)⟩
      have hprev := ih (by omega)
      have hstep :
          depthOf (piece bytes start (j + 1 + 1)) = depthOf (piece bytes start (j + 1)) + depthOf [b] := by
        rw [piece_succ (by omega) hb, depthOf_append]
      by_cases hc : b = closingByte
      · have hnot : ¬ Closes bytes start (j + 1) := fun hcloses => absurd (hleast hcloses) (by omega)
        have hne : depthOf (piece bytes start (j + 1 + 1)) ≠ 0 := fun hzero =>
          hnot ⟨by omega, by rw [hb, hc], hzero⟩
        have hclosing : depthOf [b] = -1 := by rw [hc]; decide
        omega
      · have hnonneg : 0 ≤ depthOf [b] := by
          rw [depthOf_singleton, if_neg hc]
          split_ifs <;> decide
        omega

/-- From an opening brace at depth zero the first closing brace that balances is the one that belongs to it. -/
theorem block_of_isLeast {first : Nat} (h : IsLeast {e | Closes bytes start e} e) (hstart : start ≤ first)
    (hlt : first < e) (hopen : bytes[first]? = some openingByte) (hbefore : depthOf (piece bytes start first) = 0) :
    Block bytes first e := by
  obtain ⟨⟨-, hbrace, hbalanced⟩, hleast⟩ := h
  have hshift (j : Nat) (hj : first ≤ j) : depthOf (piece bytes first j) = depthOf (piece bytes start j) := by
    rw [← piece_append hstart hj, depthOf_append, hbefore, Int.zero_add]
  refine ⟨hopen, ⟨hlt.le, hbrace, ?_⟩, ?_⟩
  · rw [hshift (e + 1) (by omega), hbalanced]
  · intro j hj hje
    have hlength : e < bytes.length := (List.getElem?_eq_some_iff.mp hbrace).1
    rw [hshift (j + 1) (by omega)]
    exact depthOf_pos_of_lt hleast hlength hstart hopen hbefore hj hje

/-- Where no closing brace comes too early, the scan ends at the brace that belongs to the first opening
one. -/
theorem exists_block (h : IsLeast {e | Closes bytes start e} e)
    (hdepth : ∀ part, part <+: piece bytes start e → 0 ≤ depthOf part) :
    ∃ first, start ≤ first ∧ (∀ j, start ≤ j → j < first → bytes[j]? ≠ some openingByte) ∧
      Block bytes first e := by
  obtain ⟨⟨hle, hbrace, hbalanced⟩, hleast⟩ := h
  have hexists : ∃ k, start ≤ k ∧ k < e ∧ bytes[k]? = some openingByte := by
    have hclosing : depthOf [closingByte] = -1 := by decide
    rw [piece_succ hle hbrace, depthOf_append, hclosing] at hbalanced
    rw [← mem_piece_iff, ← List.count_pos_iff]
    rw [depthOf] at hbalanced
    omega
  obtain ⟨hstart, hlt, hopen⟩ := Nat.find_spec hexists
  have hmin (j : Nat) (hj : start ≤ j) (hjlt : j < Nat.find hexists) : bytes[j]? ≠ some openingByte :=
    fun hopen => Nat.find_min hexists hjlt ⟨hj, by omega, hopen⟩
  generalize Nat.find hexists = first at *
  have hbefore : depthOf (piece bytes start first) = 0 := by
    have hnone : (piece bytes start first).count openingByte = 0 := by
      rw [List.count_eq_zero, mem_piece_iff]
      rintro ⟨j, hj, hjlt, hopen⟩
      exact hmin j hj hjlt hopen
    have hnonneg := hdepth (piece bytes start first) ⟨_, piece_append hstart hlt.le⟩
    rw [depthOf, hnone] at hnonneg ⊢
    omega
  exact ⟨first, hstart, hmin, block_of_isLeast ⟨⟨hle, hbrace, hbalanced⟩, hleast⟩ hstart hlt hopen hbefore⟩

/-- The end of a block is the first closing brace at or after the start that balances the braces from there
on. It lies between two characters, and unless a closing brace comes too early, it closes the block that
the first opening brace begins. -/
theorem blockEnd?_isLeast (text : String) (start : Nat) :
    (∀ e, blockEnd? text start = some e ↔ IsLeast {e | Closes (bytesOf text) start e} e) ∧
      (blockEnd? text start = none ↔ ∀ e, ¬ Closes (bytesOf text) start e) ∧
      ∀ e, blockEnd? text start = some e →
        (⟨e⟩ : String.Pos.Raw).IsValid text ∧
          ((∀ part, part <+: piece (bytesOf text) start e → 0 ≤ depthOf part) →
            ∃ first, start ≤ first ∧
              (∀ j, start ≤ j → j < first → (bytesOf text)[j]? ≠ some openingByte) ∧
              Block (bytesOf text) first e) := by
  refine ⟨fun e => ⟨isLeast_of_blockEnd?, fun hleast => ?_⟩, ⟨not_closes_of_blockEnd?, fun hnone => ?_⟩, ?_⟩
  · cases hend : blockEnd? text start with
    | none => exact absurd hleast.1 (not_closes_of_blockEnd? hend e)
    | some e' => rw [(isLeast_of_blockEnd? hend).unique hleast]
  · cases hend : blockEnd? text start with
    | none => rfl
    | some e => exact absurd (isLeast_of_blockEnd? hend).1 (hnone e)
  · intro e hend
    exact ⟨isValid_of_blockEnd? hend, exists_block (isLeast_of_blockEnd? hend)⟩

def nestedBlocks : String := "\u00e9\x7ba\x7b\x7d\x7d"

/-- The search begins inside of a character of two bytes. -/
theorem blockEnd?_isLeast_nestedBlocks :
    blockEnd? nestedBlocks 1 = some 6 ∧
      ∃ first, 1 ≤ first ∧ (∀ j, 1 ≤ j → j < first → (bytesOf nestedBlocks)[j]? ≠ some openingByte) ∧
        Block (bytesOf nestedBlocks) first 6 := by
  have hend : blockEnd? nestedBlocks 1 = some 6 := by decide +kernel
  refine ⟨hend, ((blockEnd?_isLeast nestedBlocks 1).2.2 6 hend).2 ?_⟩
  have hall : ∀ part ∈ (piece (bytesOf nestedBlocks) 1 6).inits, 0 ≤ depthOf part := by decide +kernel
  intro part hpart
  exact hall part ((List.mem_inits _ _).mpr hpart)

end Scaffold.JavaScript
